import CodeTags.Command
import CodeTags.Proofs.Framing
import CodeTags.Proofs.TagSet.Order
import CodeTags.Proofs.TokenStream

/-!
# Definitions together with references

A batch with references holds the records of both, none of them changed, in one order.

* `TagSet.IsDefinitionsOf`: a set of definitions in one file. What a tag generator says is one.
* `TagSet.entries_merge_filter`: of a merged set the entries of one kind are those of one side.
* `handle_with_references`: the batch that a service with references writes, next to those that it
  writes without them and that a scan writes.
-/

namespace CodeTags

namespace TagSet

/-! ## Kinds -/

/-- A set of definitions in the file at a path, in order. -/
structure IsDefinitionsOf (s : TagSet) (path : String) : Prop where
  path : s.path = path
  kinds : s.All fun key _ => key.kind = .definition
  inOrder : s.InOrder

/-- What any tag generator says to a query is a set of definitions in the file. -/
theorem isDefinitionsOf_query {σ : Type} {g : Generator σ} {session : GeneratorSession σ}
    {path : String} {tags : TagSet} (h : (session.query g path).1 = .ok tags) :
    tags.IsDefinitionsOf path := by
  obtain ⟨ds, rfl, -⟩ := GeneratorSession.query_eq_ok h
  exact ⟨path_foldl_insertDefinition ds _, (all_empty path).foldl_insertDefinition fun _ _ => rfl,
    (inOrder_empty path).foldl_insertDefinition ds⟩

section Merge

variable {s other : TagSet} {k k' : TagKind}

theorem get?_eq_none_of_kind (hs : s.InOrder) (hk : s.All fun key _ => key.kind = k) {key : TagKey}
    (h : key.kind ≠ k) : s.get? key = none := by
  refine Option.eq_none_iff_forall_ne_some.mpr fun image himage => h ?_
  exact hk _ (hs.mem_entries_iff.mpr himage)

/-- No entry of two sets of different kinds gets lost, and none comes in. -/
theorem mem_entries_merge (hs : s.InOrder) (ho : other.InOrder) (hne : k ≠ k')
    (hk : s.All fun key _ => key.kind = k) (hk' : other.All fun key _ => key.kind = k')
    {e : TagKey × String} : e ∈ (s.merge other).entries ↔ e ∈ s.entries ∨ e ∈ other.entries := by
  obtain ⟨key, image⟩ := e
  rw [(hs.merge other).mem_entries_iff, hs.mem_entries_iff, ho.mem_entries_iff, get?_merge ho]
  by_cases hkey : key.kind = k
  · rw [get?_eq_none_of_kind ho hk' (hkey ▸ hne)]
    simp
  · rw [get?_eq_none_of_kind hs hk hkey]
    simp

/-- So it is with the tags that are listed, if both sets are about one file. -/
theorem mem_toList_merge (hs : s.InOrder) (ho : other.InOrder) (hne : k ≠ k')
    (hk : s.All fun key _ => key.kind = k) (hk' : other.All fun key _ => key.kind = k')
    (hpath : other.path = s.path) {t : Tag} :
    t ∈ (s.merge other).toList ↔ t ∈ s.toList ∨ t ∈ other.toList := by
  rw [mem_toList_iff, mem_toList_iff, mem_toList_iff, path_merge, hpath,
    mem_entries_merge hs ho hne hk hk']
  exact and_or_left

/-- Of a merged set the entries of one kind are those of the set of that kind. -/
theorem entries_merge_filter (hs : s.InOrder) (ho : other.InOrder) (hne : k ≠ k')
    (hk : s.All fun key _ => key.kind = k) (hk' : other.All fun key _ => key.kind = k') :
    (s.merge other).entries.filter (·.1.kind == k) = s.entries ∧
      (s.merge other).entries.filter (·.1.kind == k') = other.entries := by
  have hmerge := hs.merge other
  constructor
  · refine eq_of_pairwise_of_mem_iff (hmerge.filter _) hs fun e => ?_
    rw [List.mem_filter, mem_entries_merge hs ho hne hk hk', beq_iff_eq]
    constructor
    · rintro ⟨h | h, hkind⟩
      · exact h
      · exact absurd (hkind.symm.trans (hk' e h)) hne
    · exact fun h => ⟨.inl h, hk e h⟩
  · refine eq_of_pairwise_of_mem_iff (hmerge.filter _) ho fun e => ?_
    rw [List.mem_filter, mem_entries_merge hs ho hne hk hk', beq_iff_eq]
    constructor
    · rintro ⟨h | h, hkind⟩
      · exact absurd ((hk e h).symm.trans hkind) hne
      · exact h
    · exact fun h => ⟨.inr h, hk' e h⟩

end Merge

/-! ## Records -/

/-- The line begins as a record of this kind. -/
def isLineOf (kind : TagKind) (line : List UInt8) : Bool :=
  (Utf8.encode [kind.letter, ' ']).isPrefixOf line

theorem isLineOf_record (kind : TagKind) (t : Tag) :
    isLineOf kind (Utf8.encode t.record.toList) = (t.kind == kind) := by
  rw [Tag.toList_record, isLineOf]
  cases kind <;> cases t.kind <;> rfl

theorem recordLines_eq_map (s : TagSet) :
    s.recordLines = s.entries.map fun e => Utf8.encode (e.1.toTag s.path e.2).record.toList := by
  simp only [recordLines, toList, List.map_map, Function.comp_def]

/-- Of the records of a set those of one kind are the records of its entries of that kind. -/
theorem recordLines_filter (s : TagSet) (kind : TagKind) :
    s.recordLines.filter (isLineOf kind) =
      recordLines ⟨s.path, s.entries.filter (·.1.kind == kind)⟩ := by
  rw [recordLines_eq_map, recordLines_eq_map, List.filter_map]
  refine congrArg (List.map _) (List.filter_congr fun e _ => ?_)
  rw [Function.comp_apply, isLineOf_record]
  rfl

/-- Every record is of one kind or of the other. -/
theorem length_recordLines (s : TagSet) :
    s.recordLines.length = (s.recordLines.filter (isLineOf .definition)).length +
      (s.recordLines.filter (isLineOf .reference)).length := by
  rw [recordLines_filter, recordLines_filter]
  simp only [recordLines_eq_map, List.length_map]
  induction s.entries with
  | nil => rfl
  | cons e es ih =>
    cases h : e.1.kind <;> simp [h] <;> omega

theorem OnOneLine.merge {s other : TagSet} (h : s.OnOneLine) (ho : other.OnOneLine) :
    (s.merge other).OnOneLine :=
  ⟨by rw [path_merge]; exact h.path, h.entries.merge ho.entries⟩

end TagSet

/-! ## Batches -/

namespace Service

variable {σ : Type} {definitions : DefinitionSource σ} {source next : σ} {path : String}
  {tags references : TagSet}

theorem answer_of_ok (h : definitions source path = (.ok tags, next)) :
    (Service.mk definitions none).answer source path = (.ok tags, next) := by
  simp [answer, h, addReferences]

theorem answer_of_ok_of_scan {scan : String → Except GrammarError TagSet}
    (h : definitions source path = (.ok tags, next)) (hscan : scan path = .ok references) :
    (Service.mk definitions (some scan)).answer source path =
      (.ok (tags.merge references), next) := by
  simp [answer, h, addReferences, hscan, Except.map]

/-- A request with an answer appends its batch to an output that takes everything. -/
theorem handle_of_answer {service : Service σ} {run : Run σ} (hroom : run.output.room = none)
    (hflushes : run.output.flushesLeft = none)
    (hanswer : service.answer run.source path = (.ok tags, next)) :
    (service.handle run path).failure = none ∧
      (service.handle run path).output.written =
        run.output.written ++ tags.batchLines.flatMap (· ++ [lineFeed]) := by
  rw [← TagSet.encode_batch]
  simp [handle, hanswer, deliver, BatchOutput.write, BatchOutput.taken, BatchOutput.flush, hroom,
    hflushes]

end Service

/-- A scan of one file prints its batch. -/
theorem Arguments.performScan_output {τ : Type} {languages : LanguageMap} {world : Surroundings τ}
    {path : String} {tags : TagSet} (a : Arguments)
    (h : (scanner languages world).scanPath path = .ok tags) :
    (performScan { a with scan := [path], json := false } languages world).output =
      tags.batchLines.flatMap (· ++ [lineFeed]) := by
  rw [← TagSet.encode_batch]
  simp [performScan, scanAll, h, Outcome.finished, BatchOutput.unlimited, BatchOutput.start,
    BatchOutput.write, BatchOutput.taken, BatchOutput.flush, BatchOutput.close,
    BatchOutput.handedOn]

/-- **References are added to definitions.** Without references a service writes the records of the
definitions, and a scan writes those of the references. With them the service writes the records of
both, in which those of definitions are the former and those of references the latter, line for
line, so that there are as many as both together; they are in the order of a batch. What is listed
are the images that the lookups give, so that both listings together make up the merged one. Where
the path and the definitions are on one line, all this is about the lines into which the output
splits. -/
theorem handle_with_references {σ τ : Type} {definitions : DefinitionSource σ} {run : Run σ}
    {path : String} {tags references : TagSet} {next : σ} {languages : LanguageMap}
    {world : Surroundings τ} (a : Arguments) (hroom : run.output.room = none)
    (hflushes : run.output.flushesLeft = none)
    (hdefinitions : definitions run.source path = (.ok tags, next))
    (htags : tags.IsDefinitionsOf path)
    (hscan : (Arguments.scanner languages world).scanPath path = .ok references) :
    let plain := Service.handle ⟨definitions, none⟩ run path
    let merged :=
      Service.handle ⟨definitions, some (Arguments.scanner languages world).scanPath⟩ run path
    let scanned := Arguments.performScan { a with scan := [path], json := false } languages world
    let both := tags.merge references
    plain.failure = none ∧ merged.failure = none ∧
    plain.output.written = run.output.written ++
      (tags.recordLines ++ [terminatorBytes]).flatMap (· ++ [lineFeed]) ∧
    scanned.output = (references.recordLines ++ [terminatorBytes]).flatMap (· ++ [lineFeed]) ∧
    merged.output.written = run.output.written ++
      (both.recordLines ++ [terminatorBytes]).flatMap (· ++ [lineFeed]) ∧
    both.recordLines.filter (TagSet.isLineOf .definition) = tags.recordLines ∧
    both.recordLines.filter (TagSet.isLineOf .reference) = references.recordLines ∧
    both.recordLines.length = tags.recordLines.length + references.recordLines.length ∧
    both.toList.Pairwise Tag.ListedBefore ∧
    (∀ s ∈ [tags, references, both],
      s.recordLines = s.toList.map (fun t => Utf8.encode t.record.toList) ∧
      ∀ t, t ∈ s.toList ↔ t.path = path ∧ s.get? t.key = some t.image) ∧
    (∀ t, t ∈ both.toList ↔ t ∈ tags.toList ∨ t ∈ references.toList) ∧
    (tags.OnOneLine →
      ∀ line ∈ tags.recordLines ++ references.recordLines ++ both.recordLines,
        lineFeed ∉ line) := by
  intro plain merged scanned both
  have hpath : references.path = path := Scanner.path_scanPath hscan
  have horder : both.InOrder := htags.inOrder.merge references
  have horder' : references.InOrder := Scanner.inOrder_scanPath hscan
  have hne : TagKind.definition ≠ .reference := by decide
  have hkinds := Scanner.all_reference_scanPath hscan
  obtain ⟨hentries, hentries'⟩ :=
    TagSet.entries_merge_filter htags.inOrder horder' hne htags.kinds hkinds
  have hdefinitionLines :
      both.recordLines.filter (TagSet.isLineOf .definition) = tags.recordLines := by
    rw [TagSet.recordLines_filter, hentries, TagSet.path_merge]
  have hreferenceLines :
      both.recordLines.filter (TagSet.isLineOf .reference) = references.recordLines := by
    rw [TagSet.recordLines_filter, hentries', TagSet.path_merge, htags.path, ← hpath]
  obtain ⟨hplain, hplainWritten⟩ :=
    Service.handle_of_answer hroom hflushes (Service.answer_of_ok hdefinitions)
  obtain ⟨hmerged, hmergedWritten⟩ :=
    Service.handle_of_answer hroom hflushes (Service.answer_of_ok_of_scan hdefinitions hscan)
  have hlisted : ∀ s ∈ [tags, references, both], s.InOrder ∧ s.path = path := by
    have hboth : both.path = path := (TagSet.path_merge tags references).trans htags.path
    simp [htags.inOrder, htags.path, horder', hpath, horder, hboth]
  refine ⟨hplain, hmerged, hplainWritten, Arguments.performScan_output a hscan, hmergedWritten,
    hdefinitionLines, hreferenceLines, ?_, horder.listed, fun s hs => ⟨rfl, fun t => ?_⟩,
    fun t => TagSet.mem_toList_merge htags.inOrder horder' hne htags.kinds hkinds
      (hpath.trans htags.path.symm), fun honeline line hline => ?_⟩
  · rw [TagSet.length_recordLines, hdefinitionLines, hreferenceLines]
  · rw [(hlisted s hs).1.mem_toList_iff_get?, (hlisted s hs).2]
  · have hreferences : references.OnOneLine :=
      ⟨by rw [hpath, ← htags.path]; exact honeline.path, Scanner.onOneLine_scanPath hscan⟩
    have hmem : ∀ {s : TagSet}, line ∈ s.recordLines → line ∈ s.batchLines :=
      List.mem_append_left _
    rcases List.mem_append.mp hline with hline | hline
    · rcases List.mem_append.mp hline with hline | hline
      · exact honeline.lineFeed_not_mem (hmem hline)
      · exact hreferences.lineFeed_not_mem (hmem hline)
    · exact (honeline.merge hreferences).lineFeed_not_mem (hmem hline)

/-- A program that finds one C file and a parser that sees its names. -/
def oneSource : Surroundings Unit where
  environment _ := none
  files path := if path = "x.c" then some (Utf8.encode "int x;\nint y = x;".toList) else none
  trees _ _ := .ok (.node ⟨"translation_unit", true, false, 0, 17⟩
    [.node ⟨"identifier", true, false, 4, 5⟩ [], .node ⟨"identifier", true, false, 11, 12⟩ [],
      .node ⟨"identifier", true, false, 15, 16⟩ []])
  input := []
  launch _ _ := .ok ⟨(), true, true⟩
  generator := ⟨fun _ _ => ⟨(), [], none⟩, fun _ => none, fun _ => true, fun _ => none⟩

/-- What a scan finds in that file. -/
def oneSourceReferences : TagSet where
  path := "x.c"
  entries :=
    [(⟨1, "x", .reference⟩, "int x;"), (⟨2, "x", .reference⟩, "int y = x;"),
      (⟨2, "y", .reference⟩, "int y = x;")]

theorem scanPath_oneSource_of_resolve {languages : LanguageMap}
    (h : languages.resolve "x.c" = .ok (some .c)) :
    (Arguments.scanner languages oneSource).scanPath "x.c" = .ok oneSourceReferences := by
  have htext : (Arguments.scanner languages oneSource).textOf? "x.c" =
      some "int x;\nint y = x;" := by rfl
  rw [Scanner.scanPath, show (Arguments.scanner _ _).languages.resolve "x.c" = _ from h]
  dsimp only
  rw [htext]
  -- A stream ends by its weight, so it does not compute; the leaves of the tree do.
  dsimp only [scanSource, Arguments.scanner, oneSource, Except.map]
  rw [TokenStream.toList_ofTree]
  rfl

theorem scanPath_oneSource :
    (Arguments.scanner ⟨[(".c", "C")]⟩ oneSource).scanPath "x.c" = .ok oneSourceReferences :=
  scanPath_oneSource_of_resolve rfl

/-- A program that reports a definition on a line on which the symbol is also a reference. -/
def oneReport : GeneratorSession ScriptedGenerator :=
  .start (.start [] [⟨Utf8.encode "x 1 x.c int x;\n###terminator###\n".toList, false⟩])

/-- The definition. -/
def oneDefinition : TagSet := ⟨"x.c", [(⟨1, "x", .definition⟩, "int x;")]⟩

theorem query_oneReport :
    (oneReport.query (ScriptedGenerator.generator fun _ => none) "x.c").1 = .ok oneDefinition := by
  rfl

/-- The definition stands between the references: behind the one on its own line. -/
theorem handle_with_references_of_one_source :
    oneDefinition.IsDefinitionsOf "x.c" ∧
    (Arguments.scanner ⟨[(".c", "C")]⟩ oneSource).scanPath "x.c" = .ok oneSourceReferences ∧
    (oneDefinition.merge oneSourceReferences).recordLines.length =
      oneDefinition.recordLines.length + oneSourceReferences.recordLines.length ∧
    (oneDefinition.merge oneSourceReferences).entries.map (fun e => e.1) =
      [⟨1, "x", .reference⟩, ⟨1, "x", .definition⟩, ⟨2, "x", .reference⟩,
        ⟨2, "y", .reference⟩] := by
  have hdefinitions : oneDefinition.IsDefinitionsOf "x.c" :=
    TagSet.isDefinitionsOf_query query_oneReport
  obtain ⟨-, -, -, -, -, -, -, hlength, -⟩ :=
    @handle_with_references _ Unit
      (fun session path => session.query (ScriptedGenerator.generator fun _ => none) path)
      ⟨none, 0, .unlimited, oneReport⟩ _ _ _ _ _ _ ⟨"", "", true, [], false⟩ rfl rfl
      (Prod.ext query_oneReport rfl) hdefinitions scanPath_oneSource
  exact ⟨hdefinitions, scanPath_oneSource, hlength, by decide +kernel⟩

end CodeTags
