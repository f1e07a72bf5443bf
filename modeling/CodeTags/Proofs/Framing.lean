import CodeTags.Proofs.Bridge
import CodeTags.Proofs.ReferenceScan
import CodeTags.Proofs.ReplyLine

/-!
# The lines of the output

No text that comes from outside can end a line of a batch: not a path, which comes from the input,
not a definition, which comes from the generator, and not a reference, which comes from a file.

* `TagSet.batchLines`: the records of a set and the line that ends its batch.
* `TagSet.OnOneLine`: no text of the set holds a line feed.
* `TagSet.fieldsOf_encode_batch`: batches of such sets split into just those lines.
* `onOneLine_query`, `onOneLine_referencesAt`, `onOneLine_answerAt`: so are all answers.
* `fields_of_run`: the output of a run splits into the lines of its batches.
-/

namespace CodeTags

/-! ## Lines of a batch -/

/-- The bytes of the line that ends a batch, without the line feed. -/
def terminatorBytes : List UInt8 := Utf8.encode terminator.toList

/-- The line begins as the record of a definition or of a reference. -/
def IsRecordLine (line : List UInt8) : Prop :=
  Utf8.encode "D ".toList <+: line ∨ Utf8.encode "R ".toList <+: line

theorem IsRecordLine.ne_terminatorBytes {line : List UInt8} (h : IsRecordLine line) :
    line ≠ terminatorBytes := by
  rintro rfl
  rcases h with h | h
  · exact absurd h (by decide +kernel)
  · exact absurd h (by decide +kernel)

theorem Tag.toList_record (t : Tag) :
    t.record.toList = t.kind.letter :: ' ' :: (t.symbol.toList ++ ' ' ::
      (Nat.toDigits 10 t.line ++ ' ' :: (t.path.toList ++ ' ' :: t.image.toList))) := by
  simp [Tag.record, Nat.repr]

theorem isRecordLine_record (t : Tag) : IsRecordLine (Utf8.encode t.record.toList) := by
  rw [Tag.toList_record]
  cases t.kind with
  | definition => exact .inl (List.prefix_append _ _)
  | reference => exact .inr (List.prefix_append _ _)

namespace TagSet

/-- The records of a set. -/
def recordLines (s : TagSet) : List (List UInt8) :=
  s.toList.map fun t => Utf8.encode t.record.toList

/-- The lines of the batch of a set. -/
def batchLines (s : TagSet) : List (List UInt8) := s.recordLines ++ [terminatorBytes]

theorem encode_batch (s : TagSet) :
    Utf8.encode s.batch.toList = s.batchLines.flatMap (· ++ [lineFeed]) := by
  have hrecords : ∀ ts : List Tag,
      Utf8.encode (String.join (ts.map fun t => t.record ++ "\n")).toList =
        (ts.map fun t => Utf8.encode t.record.toList).flatMap (· ++ [lineFeed]) := by
    intro ts
    induction ts with
    | nil => rfl
    | cons t ts ih =>
      rw [List.map_cons, List.map_cons, List.flatMap_cons, ← ih]
      simp [String.toList_join]
      rfl
  rw [batch, String.toList_append, String.toList_append, Utf8.encode_append, Utf8.encode_append,
    hrecords, batchLines, List.flatMap_append, recordLines, List.append_assoc]
  rfl

/-- No text of the set holds a line feed. -/
structure OnOneLine (s : TagSet) : Prop where
  path : '\n' ∉ s.path.toList
  entries : s.All TagKey.OnOneLine

theorem newline_not_mem_toDigits (n : Nat) : '\n' ∉ Nat.toDigits 10 n := by
  intro h
  exact absurd (Nat.isDigit_of_mem_toDigits (by decide) (by decide) h) (by decide)

theorem OnOneLine.newline_not_mem_record {s : TagSet} (h : s.OnOneLine) {t : Tag}
    (ht : t ∈ s.toList) : '\n' ∉ t.record.toList := by
  obtain ⟨⟨key, image⟩, he, rfl⟩ := List.mem_map.mp ht
  obtain ⟨hsymbol, himage⟩ := h.entries _ he
  have hletter : key.kind.letter ≠ '\n' := by cases key.kind <;> decide
  simp [Tag.record, TagKey.toTag, hsymbol, himage, h.path, newline_not_mem_toDigits, hletter.symm]

theorem OnOneLine.lineFeed_not_mem {s : TagSet} (h : s.OnOneLine) {line : List UInt8}
    (hline : line ∈ s.batchLines) : lineFeed ∉ line := by
  rcases List.mem_append.mp hline with hline | hline
  · obtain ⟨t, ht, rfl⟩ := List.mem_map.mp hline
    exact mt Utf8.lineFeed_mem_encode.mp (h.newline_not_mem_record ht)
  · obtain rfl := List.mem_singleton.mp hline
    exact mt Utf8.lineFeed_mem_encode.mp (by decide)

/-- Batches of such sets, one behind the other, split into their lines. -/
theorem fieldsOf_encode_batch {ss : List TagSet} (h : ∀ s ∈ ss, s.OnOneLine) :
    fieldsOf lineFeed (ss.flatMap fun s => Utf8.encode s.batch.toList) =
      ss.flatMap batchLines ++ [[]] := by
  have hbytes : (ss.flatMap fun s => Utf8.encode s.batch.toList) =
      (ss.flatMap batchLines).flatMap (· ++ [lineFeed]) := by
    simp only [encode_batch, List.flatMap_assoc]
  rw [hbytes]
  refine fieldsOf_flatMap_concat fun line hline => ?_
  obtain ⟨s, hs, hline⟩ := List.mem_flatMap.mp hline
  exact (h s hs).lineFeed_not_mem hline

theorem isRecordLine_of_mem_recordLines {s : TagSet} {line : List UInt8}
    (h : line ∈ s.recordLines) : IsRecordLine line := by
  obtain ⟨t, -, rfl⟩ := List.mem_map.mp h
  exact isRecordLine_record t

/-- No record is the line that ends a batch. -/
theorem count_terminatorBytes (ss : List TagSet) :
    (ss.flatMap batchLines).count terminatorBytes = ss.length := by
  induction ss with
  | nil => rfl
  | cons s ss ih =>
    have hrecords : s.recordLines.count terminatorBytes = 0 :=
      List.count_eq_zero.mpr fun h => (isRecordLine_of_mem_recordLines h).ne_terminatorBytes rfl
    rw [List.flatMap_cons, List.count_append, ih, batchLines, List.count_append, hrecords,
      List.count_singleton_self, List.length_cons]
    omega

end TagSet

/-! ## Answers -/

/-- The definitions of any generator are on one line, whatever it writes. -/
theorem GeneratorSession.onOneLine_query {σ : Type} {g : Generator σ} {s : GeneratorSession σ}
    {path : String} {tags : TagSet} (h : (s.query g path).1 = .ok tags) :
    tags.path = path ∧ tags.All TagKey.OnOneLine := by
  obtain ⟨ds, rfl, hds⟩ := query_eq_ok h
  refine ⟨TagSet.path_foldl_insertDefinition ds _,
    (TagSet.all_empty path).foldl_insertDefinition fun d hd => ?_⟩
  obtain ⟨line, hline⟩ := hds d hd
  exact newline_not_mem_of_parse? hline

namespace Setting

variable {σ : Type}

variable {g : Generator σ} {scanner : Option Scanner} {session : GeneratorSession σ}
  {input : RequestInput}

theorem newline_not_mem_pathAt (x : Setting σ) {k : Nat} (hk : k < x.paths.length) :
    '\n' ∉ (x.pathAt k).toList := by
  have hpath : x.pathAt k ∈ x.paths := by
    rw [pathAt, List.getD_eq_getElem?_getD, List.getElem?_eq_getElem hk]
    exact List.getElem_mem hk
  obtain ⟨line, hline, heq⟩ := List.mem_map.mp hpath
  rw [← heq]
  exact newline_not_mem_requestOf hline

theorem onOneLine_referencesAt {k : Nat} {references : TagSet}
    (h : (ofGenerator g scanner session input).referencesAt k = .ok (some references)) :
    references.All TagKey.OnOneLine := by
  cases scanner with
  | none => exact absurd h (by simp [referencesAt, ofGenerator, Service.ofGenerator])
  | some scanner =>
    have hmap : (scanner.scanPath ((ofGenerator g scanner session input).pathAt k)).map some =
      .ok (some references) := h
    cases hscan : scanner.scanPath ((ofGenerator g scanner session input).pathAt k) with
    | error e => simp [hscan, Except.map] at hmap
    | ok tags =>
      rw [hscan] at hmap
      obtain rfl := Option.some.inj (Except.ok.inj hmap)
      exact Scanner.onOneLine_scanPath hscan

/-- The answer to a request is about its path, and on one line. -/
theorem onOneLine_answerAt {k : Nat} {tags : TagSet}
    (hk : k < (ofGenerator g scanner session input).paths.length)
    (h : (ofGenerator g scanner session input).answerAt k = .ok tags) :
    tags.path = (ofGenerator g scanner session input).pathAt k ∧ tags.OnOneLine := by
  have hline := newline_not_mem_pathAt _ hk
  unfold answerAt at h
  split at h
  · exact absurd h (by simp)
  · exact absurd h (by simp)
  · next definitions hdefinitions _ =>
    obtain rfl := Except.ok.inj h
    obtain ⟨hpath, hall⟩ := GeneratorSession.onOneLine_query hdefinitions
    exact ⟨hpath, hpath ▸ hline, hall⟩
  · next definitions references hdefinitions hreferences =>
    obtain rfl := Except.ok.inj h
    obtain ⟨hpath, hall⟩ := GeneratorSession.onOneLine_query hdefinitions
    have hscan := onOneLine_referencesAt hreferences
    rw [← hpath] at hline ⊢
    exact ⟨TagSet.path_merge _ _, by rwa [TagSet.path_merge], hall.merge hscan⟩

/-- The requests that were answered have answers, and these make up the batches. -/
theorem exists_answers (x : Setting σ) {n : Nat} (hn : n ≤ x.run.served) :
    ∃ answers : List TagSet, answers.length = n ∧
      (∀ k (h : k < answers.length), x.answerAt k = .ok answers[k]) ∧
      x.batchesUpTo n = answers.flatMap fun s => Utf8.encode s.batch.toList := by
  induction n with
  | zero => exact ⟨[], rfl, by simp, rfl⟩
  | succ n ih =>
    obtain ⟨answers, hlen, hanswers, hbatches⟩ := ih (Nat.le_of_succ_le hn)
    obtain ⟨tags, htags⟩ := x.answerAt_of_lt_served hn
    refine ⟨answers ++ [tags], by simp [hlen], fun k hk => ?_, ?_⟩
    · by_cases hlt : k < answers.length
      · rw [List.getElem_append_left hlt]
        exact hanswers k hlt
      · have hk : k = n := by
          rw [List.length_append, List.length_singleton] at hk
          omega
        rw [List.getElem_append_right (by omega), List.getElem_singleton, hk]
        exact htags
    · rw [batchesUpTo_succ, hbatches, batchAt, htags, List.flatMap_append, List.flatMap_singleton]

end Setting

/-- **The lines of the output.** Whatever the input, the generator, the files and their trees are,
the requests before the first one without an answer are answered, and the output splits at its line
feeds into the lines of their batches, with nothing behind them. The last line of a batch is the one
that ends it, and the others begin as records, so that there are as many of the former as requests
were answered. -/
theorem fields_of_run {σ : Type} (g : Generator σ) (scanner : Option Scanner)
    (session : GeneratorSession σ) (input : RequestInput) :
    let x := Setting.ofGenerator g scanner session input
    let run := (Service.ofGenerator g scanner).run session input .unlimited
    ∃ answers : List TagSet,
      answers.length = run.served ∧
      (run.served = x.paths.length ∨
        run.served < x.paths.length ∧ ∃ e, x.answerAt run.served = .error e) ∧
      (∀ k (h : k < answers.length),
        x.answerAt k = .ok answers[k] ∧ answers[k].path = x.pathAt k) ∧
      fieldsOf lineFeed run.output.written =
        (answers.flatMap fun s => s.recordLines ++ [terminatorBytes]) ++ [[]] ∧
      (∀ s ∈ answers, ∀ line ∈ s.recordLines, IsRecordLine line) ∧
      (fieldsOf lineFeed run.output.written).count terminatorBytes = run.served := by
  intro x run
  obtain ⟨answers, hlen, hanswers, hbatches⟩ := x.exists_answers (Nat.le_refl x.run.served)
  have hlines : ∀ k (h : k < answers.length),
      answers[k].path = x.pathAt k ∧ answers[k].OnOneLine := by
    intro k h
    exact Setting.onOneLine_answerAt (Nat.lt_of_lt_of_le (hlen ▸ h) x.served_le) (hanswers k h)
  have honline : ∀ s ∈ answers, s.OnOneLine := by
    intro s hs
    obtain ⟨k, hk, rfl⟩ := List.getElem_of_mem hs
    exact (hlines k hk).2
  have hfields : fieldsOf lineFeed run.output.written =
      (answers.flatMap fun s => s.recordLines ++ [terminatorBytes]) ++ [[]] := by
    have hwritten : run.output.written = x.batchesUpTo x.run.served :=
      (x.output_of_unlimited rfl rfl).1
    rw [hwritten, hbatches]
    exact TagSet.fieldsOf_encode_batch honline
  refine ⟨answers, hlen, x.served_of_unlimited rfl rfl,
    fun k h => ⟨hanswers k h, (hlines k h).1⟩, hfields,
    fun _ _ _ => TagSet.isRecordLine_of_mem_recordLines, ?_⟩
  have hcount := TagSet.count_terminatorBytes answers
  rw [hfields, List.count_append]
  exact hcount.trans hlen

end CodeTags
