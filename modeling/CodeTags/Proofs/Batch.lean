import CodeTags.Batch.Reader
import CodeTags.Proofs.Framing
import CodeTags.Proofs.TagSet.Order
import CodeTags.Proofs.Text.Utf8

/-!
# Reading back what was written

A batch holds no lengths and no quotes, yet whoever knows its path can read it, because a symbol
holds no space, a number holds none either, and nothing holds the end of a line.

* `Tag.ofRecord?_record`: a record is read as its tag.
* `readRecords?_batchLines`: the lines of a batch are read up to the one that ends it.
* `TagSet.ofTags_toList`: the tags of a set make up the set.
* `readBatches?_encode_batch`: batches one behind the other are read as the sets they were written
  for, whatever follows.
-/

namespace CodeTags

/-! ## Records -/

theorem cutAtSpace?_append {as : List Char} (h : ' ' ∉ as) (bs : List Char) :
    cutAtSpace? (as ++ ' ' :: bs) = some (as, bs) := by
  have has : ∀ a ∈ as, (a != ' ') = true := by
    intro a ha
    simpa using fun heq : a = ' ' => h (heq ▸ ha)
  rw [cutAtSpace?, List.dropWhile_append_of_pos has, List.takeWhile_append_of_pos has]
  simp

theorem space_not_mem_toDigits (n : Nat) : ' ' ∉ Nat.toDigits 10 n := by
  intro h
  exact absurd (Nat.isDigit_of_mem_toDigits (by decide) (by decide) h) (by decide)

theorem decimalValue?_toDigits (n : Nat) : decimalValue? (Nat.toDigits 10 n) = some n := by
  have hdigits : (Nat.toDigits 10 n).all Char.isDigit = true :=
    List.all_eq_true.mpr fun _ h => Nat.isDigit_of_mem_toDigits (by decide) (by decide) h
  rw [decimalValue?, if_pos ⟨Nat.toDigits_ne_nil, hdigits⟩,
    Nat.ofDigitChars_toDigits (by decide) (by decide)]

theorem TagKind.ofLetter?_letter (kind : TagKind) : ofLetter? kind.letter = some kind := by
  cases kind <;> rfl

/-- A record is read as its tag. The path and the image can hold spaces, the symbol cannot. -/
theorem Tag.ofRecord?_record {t : Tag} (h : ' ' ∉ t.symbol.toList) :
    ofRecord? t.path t.record.toList = some t := by
  have hpath : dropExact? t.path.toList (t.path.toList ++ ' ' :: t.image.toList) =
      some (' ' :: t.image.toList) := dropExact?_eq_some_iff.mpr rfl
  have himage : dropExact? [' '] (' ' :: t.image.toList) = some t.image.toList :=
    dropExact?_eq_some_iff.mpr rfl
  rw [toList_record, ofRecord?]
  simp [TagKind.ofLetter?_letter, cutAtSpace?_append h,
    cutAtSpace?_append (space_not_mem_toDigits _), decimalValue?_toDigits, hpath, himage]

theorem Tag.ofLine?_encode (path : String) (cs : List Char) :
    ofLine? path (Utf8.encode cs ++ [lineFeed]) = ofRecord? path cs := by
  rw [ofLine?, if_pos (by simp), List.dropLast_concat, Utf8.decode?_encode, Option.bind_some]

/-! ## Batches -/

namespace TagSet

/-- The lines of a batch are read up to the one that ends it. -/
theorem readRecords?_batchLines {s : TagSet} (h : s.All fun key _ => ' ' ∉ key.symbol.toList)
    (lines : List (List UInt8)) :
    readRecords? s.path (s.batchLines.map (· ++ [lineFeed]) ++ lines) = some (s.toList, lines) := by
  have hrecords : ∀ ts : List Tag, (∀ t ∈ ts, t.path = s.path ∧ ' ' ∉ t.symbol.toList) →
      readRecords? s.path ((ts.map fun t => Utf8.encode t.record.toList ++ [lineFeed]) ++
        terminatorLine :: lines) = some (ts, lines) := by
    intro ts hts
    induction ts with
    | nil => simp [readRecords?]
    | cons t ts ih =>
      obtain ⟨hpath, hsymbol⟩ := hts t List.mem_cons_self
      have hline : Utf8.encode t.record.toList ++ [lineFeed] ≠ terminatorLine := fun heq =>
        (isRecordLine_record t).ne_terminatorBytes (List.append_cancel_right heq)
      rw [List.map_cons, List.cons_append, readRecords?, if_neg hline, Tag.ofLine?_encode, ← hpath,
        Tag.ofRecord?_record hsymbol, hpath, ih fun u hu => hts u (List.mem_cons_of_mem _ hu)]
      rfl
  have htags : ∀ t ∈ s.toList, t.path = s.path ∧ ' ' ∉ t.symbol.toList := by
    intro t ht
    obtain ⟨e, he, rfl⟩ := List.mem_map.mp ht
    exact ⟨rfl, h e he⟩
  have hlines : s.batchLines.map (· ++ [lineFeed]) ++ lines =
      (s.toList.map fun t => Utf8.encode t.record.toList ++ [lineFeed]) ++
        terminatorLine :: lines := by
    simp [batchLines, recordLines, Function.comp_def, terminatorLine, terminatorBytes]
  rw [hlines, hrecords _ htags]

/-- A batch is read as the tags of its set, and what follows it is left. -/
theorem readBatch?_encode_batch {s : TagSet} (honeline : s.OnOneLine)
    (hsymbol : s.All fun key _ => ' ' ∉ key.symbol.toList) (rest : List UInt8) :
    readBatch? s.path (Utf8.encode s.batch.toList ++ rest) = some (s.toList, rest) := by
  have hfeed : ∀ line ∈ s.batchLines, lineFeed ∉ line := fun _ h => honeline.lineFeed_not_mem h
  rw [readBatch?, encode_batch, linesAfter_flatMap_concat_append hfeed,
    readRecords?_batchLines hsymbol, Option.map_some, flatten_linesAfter]

/-- The tags of a set in order make up the set. -/
theorem ofTags_toList {s : TagSet} (h : s.InOrder) : ofTags s.path s.toList = s := by
  have hmerge : ofTags s.path s.toList = (empty s.path).merge s := by
    rw [ofTags, toList, List.foldl_map]
    rfl
  have horder := (inOrder_empty s.path).merge s
  rw [hmerge]
  refine horder.eq_of_get?_eq h (path_merge _ _) fun key => ?_
  rw [get?_merge h]
  exact Option.or_none

theorem zipWith_ofTags {ss : List TagSet} (h : ∀ s ∈ ss, s.InOrder) :
    List.zipWith ofTags (ss.map (·.path)) (ss.map (·.toList)) = ss := by
  induction ss with
  | nil => rfl
  | cons s ss ih =>
    rw [List.map_cons, List.map_cons, List.zipWith_cons_cons,
      ofTags_toList (h s List.mem_cons_self), ih fun t ht => h t (List.mem_cons_of_mem _ ht)]

end TagSet

/-- **Batches are read back.** Of sets whose paths and images hold no line feed, and whose symbols
hold neither a line feed nor a space, each batch is read as the tags of its set, whatever follows
it. So batches one behind the other are read as the tags of all the sets, the bytes behind them are
left, and the tags make up the sets. -/
theorem readBatches?_encode_batch {ss : List TagSet} (honeline : ∀ s ∈ ss, s.OnOneLine)
    (hsymbols : ∀ s ∈ ss, s.All fun key _ => ' ' ∉ key.symbol.toList) (rest : List UInt8) :
    let paths := ss.map (·.path)
    let bytes := ss.flatMap fun s => Utf8.encode s.batch.toList
    (∀ s ∈ ss, readBatch? s.path (Utf8.encode s.batch.toList ++ rest) = some (s.toList, rest)) ∧
    readBatches? paths (bytes ++ rest) = some (ss.map (·.toList), rest) ∧
    ((∀ s ∈ ss, s.InOrder) → List.zipWith TagSet.ofTags paths (ss.map (·.toList)) = ss) := by
  have hread : ∀ s ∈ ss, ∀ rest,
      readBatch? s.path (Utf8.encode s.batch.toList ++ rest) = some (s.toList, rest) :=
    fun s hs => TagSet.readBatch?_encode_batch (honeline s hs) (hsymbols s hs)
  refine ⟨fun s hs => hread s hs rest, ?_, TagSet.zipWith_ofTags⟩
  clear honeline hsymbols
  induction ss with
  | nil => rfl
  | cons s ss ih =>
    rw [List.map_cons, List.flatMap_cons, List.append_assoc, readBatches?,
      hread s List.mem_cons_self, Option.bind_some,
      ih fun t ht => hread t (List.mem_cons_of_mem _ ht)]
    rfl

/-- Sets with spaces in a path, an image that is the terminator, an image that looks like a record,
and one without an image; the second set is empty. -/
def threeSets : List TagSet :=
  [⟨"my file.c", [(⟨1, "x", .reference⟩, ""), (⟨1, "x", .definition⟩, "###terminator###"),
      (⟨12, "operator+", .definition⟩, " R y 2 my file.c ")]⟩,
    ⟨"", []⟩,
    ⟨"b.c", [(⟨3, "", .reference⟩, "\t\r")]⟩]

theorem readBatches?_encode_batch_of_three_sets :
    (∀ s ∈ threeSets, s.OnOneLine) ∧
    (∀ s ∈ threeSets, s.All fun key _ => ' ' ∉ key.symbol.toList) ∧
    (∀ s ∈ threeSets, s.InOrder) ∧
    (readBatches? (threeSets.map (·.path))
        ((threeSets.flatMap fun s => Utf8.encode s.batch.toList) ++ [10, 0xFF])).map
      (fun r => (List.zipWith TagSet.ofTags (threeSets.map (·.path)) r.1, r.2)) =
      some (threeSets, [10, 0xFF]) := by
  have honeline : ∀ s ∈ threeSets, s.OnOneLine := by
    have hpath : ∀ s ∈ threeSets, '\n' ∉ s.path.toList := by decide +kernel
    have hentries : ∀ s ∈ threeSets, ∀ e ∈ s.entries,
        '\n' ∉ e.1.symbol.toList ∧ '\n' ∉ e.2.toList := by decide +kernel
    exact fun s hs => ⟨hpath s hs, hentries s hs⟩
  have hsymbols : ∀ s ∈ threeSets, ∀ e ∈ s.entries, ' ' ∉ e.1.symbol.toList := by decide +kernel
  have horder : ∀ s ∈ threeSets, s.entries.Pairwise fun a b => a.1.Before b.1 := by
    decide +kernel
  obtain ⟨-, hread, hsets⟩ := readBatches?_encode_batch honeline hsymbols [10, 0xFF]
  refine ⟨honeline, hsymbols, horder, ?_⟩
  rw [hread, Option.map_some, hsets horder]

end CodeTags
