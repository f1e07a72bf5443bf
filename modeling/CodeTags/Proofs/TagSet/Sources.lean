import CodeTags.Proofs.Framing
import CodeTags.Proofs.LineCursor
import CodeTags.Proofs.ReplyLine.FirstReport

/-!
# What the two sources of tags give

Definitions come from the lines of a reply, and references from the leaves of a syntax tree. What is
said here of their tags holds whatever the generator writes and whatever the file and its tree are.

* `Tag.IsDefinition`, `Tag.IsReference`: the tags of each kind, by their line, symbol and image.
* `exists_report_of_parse?`: the report from which a definition was read.
* `exists_lineNumberAt_of_mem_recordsFrom`: a scan gives only numbers of lines of the text.
* `tags_of_sources`: all tags that are found are such tags.
-/

namespace CodeTags

/-! ## Tags -/

/-- The text is on one line, and no carriage return ends it. -/
def IsLineText (text : String) : Prop :=
  '\n' ∉ text.toList ∧ text.toList.getLast? ≠ some '\r'

/-- The tag is a definition as a generator reports it. -/
structure Tag.IsDefinition (t : Tag) : Prop where
  kind : t.kind = .definition
  line : 1 ≤ t.line ∧ t.line < UInt64.size
  symbol : IsWord t.symbol
  image : IsLineText t.image
  unindented : ∀ c ∈ t.image.toList.head?, isBlank c = false

/-- The tag is a reference in a file with so many line feeds. -/
structure Tag.IsReference (lineFeeds : Nat) (t : Tag) : Prop where
  kind : t.kind = .reference
  line : 1 ≤ t.line ∧ t.line ≤ lineFeeds + 1
  symbol : IsWord t.symbol
  image : IsLineText t.image

/-! ## Texts of lines -/

theorem getLast?_lineContent (cs : List Char) : (lineContent cs).getLast? ≠ some '\r' := by
  intro h
  exact absurd (not_of_mem_getLast?_trimEnd (p := (· == '\r')) h) (by decide)

/-- What ends a text ends each of its final parts. -/
theorem getLast?_of_isSuffix {α : Type} {xs ys : List α} (h : xs <:+ ys) {a : α}
    (ha : xs.getLast? = some a) : ys.getLast? = some a := by
  obtain ⟨front, rfl⟩ := h
  rw [List.getLast?_append, ha, Option.some_or]

/-! ## Definitions -/

/-- A definition is read from a report somewhere in its line. -/
theorem exists_report_of_parse? {path line : String} {d : Definition}
    (h : Definition.parse? path line = some d) :
    ∃ before behind digits, line.toList = before ++ behind ∧
      IsReport path.toList behind ⟨d.symbol.toList, digits, d.image.toList⟩ ∧
      IsLineNumber digits d.line := by
  rw [Definition.parse?_eq_bind_matchReport?] at h
  obtain ⟨⟨symbol, digits, image⟩, hmatch, hd⟩ := Option.bind_eq_some_iff.mp h
  obtain ⟨before, ⟨-, behind, hline, hreport⟩, -⟩ := exists_isFirstReport hmatch
  obtain ⟨rfl, rfl, hnumber⟩ := (definition?_eq_some_iff hreport.digits.1).mp hd
  exact ⟨before, behind, digits, hline, hreport, hnumber⟩

/-- The image of a report is the end of its line. -/
theorem IsReport.image_isSuffix {path cs : List Char} {r : Report} (h : IsReport path cs r) :
    r.image <:+ cs := by
  obtain ⟨gap, gap', gap'', -, -, -, rfl⟩ := h.text
  exact ⟨r.symbol ++ (gap ++ (r.digits ++ (gap' ++ (path ++ gap'')))), by simp⟩

/-- What a line of a reply reports is a definition. -/
theorem isDefinition_of_parse? {path : String} {line : List UInt8} {d : Definition}
    (h : Definition.parse? path (replyText line) = some d) (path' : String) :
    (d.key.toTag path' d.image).IsDefinition := by
  obtain ⟨before, behind, digits, hline, hreport, hnumber⟩ := exists_report_of_parse? h
  refine ⟨rfl, hnumber.2.2, hreport.symbol,
    ⟨hreport.image.2, fun hreturn => ?_⟩, hreport.image.1⟩
  have hsuffix : d.image.toList <:+ (replyText line).toList := by
    rw [hline]
    exact hreport.image_isSuffix.trans (List.suffix_append before behind)
  have hlast := getLast?_of_isSuffix hsuffix hreturn
  rw [replyText, String.toList_ofList] at hlast
  exact getLast?_lineContent _ hlast

theorem GeneratorSession.isDefinition_query {σ : Type} {g : Generator σ} {s : GeneratorSession σ}
    {path : String} {tags : TagSet} (h : (s.query g path).1 = .ok tags) :
    tags.All fun key image => ∀ path', (key.toTag path' image).IsDefinition := by
  obtain ⟨ds, rfl, hds⟩ := query_eq_ok h
  refine (TagSet.all_empty path).foldl_insertDefinition fun d hd path' => ?_
  obtain ⟨line, hline⟩ := hds d hd
  exact isDefinition_of_parse? hline path'

/-! ## References -/

/-- However a cursor has come to its line, the lines that it gives are those of places in the text,
so that no token is put on a line that is not there. -/
theorem exists_lineNumberAt_of_mem_recordsFrom {text : String} {options : ScanOptions}
    {cursor : LineCursor} {tokens : List Token}
    (hcursor : ∀ offset, ∃ place, (cursor.advance offset).line = lineNumberAt text place)
    {e : TagKey × String} (h : e ∈ recordsFrom (.ofText text) text options cursor tokens) :
    ∃ place, e.1.line = lineNumberAt text place := by
  induction tokens generalizing cursor with
  | nil => exact absurd h List.not_mem_nil
  | cons token tokens ih =>
    have hnext : ∀ offset, ∃ place,
        ((cursor.advance token.offset).advance offset).line = lineNumberAt text place := by
      intro offset
      rw [LineCursor.advance_advance]
      exact hcursor _
    rw [recordsFrom] at h
    split at h
    · dsimp only [LineCursor.lineOf] at h
      split at h
      · rcases List.mem_cons.mp h with rfl | h
        · exact hcursor token.offset
        · exact ih hnext h
      · exact ih hnext h
    · exact ih hcursor h

theorem line_mem_scanTokens (path text : String) (tokens : List Token) (options : ScanOptions) :
    (scanTokens path text tokens options).All fun key _ =>
      1 ≤ key.line ∧ key.line ≤ text.toList.count '\n' + 1 := by
  rw [scanTokens_eq_foldl]
  refine (TagSet.all_empty path).foldl_insert fun e he => ?_
  obtain ⟨place, hplace⟩ := exists_lineNumberAt_of_mem_recordsFrom
    (fun offset => ⟨offset, line_advance_cursor text offset⟩) he
  rw [hplace]
  exact ⟨Nat.le_add_left 1 _, lineNumberAt_le text place⟩

/-- What any tokens of a text give are references. -/
theorem isReference_scanTokens (path text : String) (tokens : List Token) (options : ScanOptions) :
    (scanTokens path text tokens options).All fun key image =>
      ∀ path', (key.toTag path' image).IsReference (text.toList.count '\n') := by
  intro e he path'
  have hreference := isReferenceIn_scanTokens path text tokens options e he
  refine ⟨hreference.kind, line_mem_scanTokens path text tokens options e he,
    ⟨hreference.nonempty, hreference.symbol⟩, hreference.onOneLine.2, ?_⟩
  change e.2.toList.getLast? ≠ some '\r'
  rw [hreference.image, String.toList_ofList]
  exact getLast?_lineContent _

theorem Scanner.exists_contents_of_textOf? {scanner : Scanner} {path text : String}
    (h : scanner.textOf? path = some text) :
    ∃ contents, scanner.files path = some contents ∧
      contents.count lineFeed = text.toList.count '\n' := by
  obtain ⟨cs, hcs, rfl⟩ := Option.map_eq_some_iff.mp h
  obtain ⟨contents, hfile, hdecode⟩ := Option.bind_eq_some_iff.mp hcs
  refine ⟨contents, hfile, ?_⟩
  rw [← Utf8.encode_of_decode? hdecode, Utf8.count_lineFeed_encode, String.toList_ofList]

/-! ## Both sources -/

/-- **What the sources of tags give.** Whatever a generator writes, an answer to a query has the
path of the query, and all its tags are definitions: with a line number of 64 bits that is not zero,
a symbol that is one word, and an image on one line with no blanks in front and no carriage return
at the end. Whatever a file and its tree are, a scan has the path of the file, and all its tags are
references: to a line that the file has, with a symbol that is one word and an image on one line
with no carriage return at the end. -/
theorem tags_of_sources {σ : Type} (g : Generator σ) (session : GeneratorSession σ)
    (scanner : Scanner) (path : String) :
    (∀ tags, (session.query g path).1 = .ok tags →
      tags.path = path ∧ ∀ t ∈ tags.toList, t.path = path ∧ t.IsDefinition) ∧
    (∀ tags, scanner.scanPath path = .ok tags →
      tags.path = path ∧ ∀ t ∈ tags.toList, t.path = path ∧
        ∃ contents, scanner.files path = some contents ∧
          t.IsReference (contents.count lineFeed)) := by
  constructor
  · intro tags h
    have hpath := (GeneratorSession.onOneLine_query h).1
    refine ⟨hpath, fun t ht => ?_⟩
    obtain ⟨htpath, hentry⟩ := TagSet.mem_toList_iff.mp ht
    exact ⟨htpath.trans hpath, GeneratorSession.isDefinition_query h _ hentry t.path⟩
  · intro tags h
    have hpath := Scanner.path_scanPath h
    refine ⟨hpath, fun t ht => ?_⟩
    obtain ⟨htpath, hentry⟩ := TagSet.mem_toList_iff.mp ht
    refine ⟨htpath.trans hpath, ?_⟩
    rcases Scanner.scanPath_cases h with rfl | ⟨text, tokens, htext, rfl⟩
    · exact absurd hentry List.not_mem_nil
    · obtain ⟨contents, hfile, hcount⟩ := Scanner.exists_contents_of_textOf? htext
      refine ⟨contents, hfile, ?_⟩
      rw [hcount]
      exact isReference_scanTokens path text tokens _ _ hentry t.path

end CodeTags
