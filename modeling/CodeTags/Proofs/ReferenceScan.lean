import CodeTags.Proofs.LineIndex
import CodeTags.Proofs.TagSet.Order
import CodeTags.Proofs.Text.LineFeed

/-!
# What a reference scan can record

* `symbolOf?_eq_some_iff`: what a symbol is; `not_isBlank_of_mem_symbolOf?`: it is one word.
* `IsReferenceIn`: an entry that names such a symbol and shows a whole line of the text.
* `recordsFrom`: the entries that tokens record in turn, and `scanTokens_eq_foldl`: a scan is made
  up of them. So it records references in the text and nothing else, whatever the tokens are.
* `Scanner.scanPath_cases`: what a scan of a file can give. No entry holds a line feed
  (`Scanner.onOneLine_scanPath`), whatever the file and its tree are.
-/

namespace CodeTags

/-! ## Symbols -/

/-- A symbol is what is left of its name. -/
theorem symbolOf?_eq_some_iff {strip : Bool} {name symbol : String} :
    symbolOf? strip name = some symbol ↔ symbol.toList ≠ [] ∧
      symbol.toList = if strip then trim isSymbolMark (name.toList.filter (!isBlank ·))
        else name.toList.filter (!isBlank ·) := by
  rw [symbolOf?]
  generalize (if strip then trim isSymbolMark (name.toList.filter (!isBlank ·))
    else name.toList.filter (!isBlank ·)) = core
  split
  · next hnil => exact iff_of_false (by simp) fun h => h.1 (h.2.trans hnil)
  · next hne =>
    constructor
    · intro h
      obtain rfl := Option.some.inj h
      rw [String.toList_ofList]
      exact ⟨hne, rfl⟩
    · rintro ⟨-, rfl⟩
      rw [String.ofList_toList]

/-- Nothing of a symbol is blank, and there is something of it. -/
theorem not_isBlank_of_mem_symbolOf? {strip : Bool} {name symbol : String}
    (h : symbolOf? strip name = some symbol) :
    symbol.toList ≠ [] ∧ ∀ c ∈ symbol.toList, isBlank c = false := by
  obtain ⟨hne, hsymbol⟩ := symbolOf?_eq_some_iff.mp h
  refine ⟨hne, fun c hc => ?_⟩
  have hbare : c ∈ name.toList.filter (!isBlank ·) := by
    rw [hsymbol] at hc
    split at hc
    · exact mem_of_mem_trim hc
    · exact hc
  simpa using (List.mem_filter.mp hbare).2

/-! ## Tokens -/

/-- The entry is a reference to a symbol without blanks, and its image is the content of its line of
the text. -/
structure IsReferenceIn (text : String) (key : TagKey) (image : String) : Prop where
  kind : key.kind = .reference
  nonempty : key.symbol.toList ≠ []
  symbol : ∀ c ∈ key.symbol.toList, isBlank c = false
  image : image =
    String.ofList (lineContent ((linesAfter '\n' text.toList).getD (key.line - 1) []))

theorem IsReferenceIn.onOneLine {text : String} {key : TagKey} {image : String}
    (h : IsReferenceIn text key image) : key.OnOneLine image := by
  refine ⟨fun hmem => ?_, ?_⟩
  · have := h.symbol _ hmem
    rw [isBlank_newline] at this
    exact absurd this (by decide)
  · rw [h.image, String.toList_ofList, List.getD_eq_getElem?_getD]
    cases hline : (linesAfter '\n' text.toList)[key.line - 1]? with
    | none => exact (newline_not_mem_lineContent List.not_mem_nil).1
    | some line =>
      obtain ⟨body, hbody, rfl | rfl⟩ := mem_linesAfter (List.mem_of_getElem? hline)
      · exact (newline_not_mem_lineContent hbody).2
      · exact (newline_not_mem_lineContent hbody).1

/-! ## Scans -/

/-- The entries that tokens record in turn. Each name moves the cursor, and records an entry if it
has a symbol. -/
def recordsFrom (index : LineIndex) (text : String) (options : ScanOptions) :
    LineCursor → List Token → List (TagKey × String)
  | _, [] => []
  | cursor, token :: tokens =>
    if token.tokenClass.isName then
      let (line, cursor) := cursor.lineOf token.offset
      match symbolOf? options.strip token.text with
      | some symbol =>
        (⟨line, symbol, .reference⟩, index.lineText text line) ::
          recordsFrom index text options cursor tokens
      | none => recordsFrom index text options cursor tokens
    else recordsFrom index text options cursor tokens

/-- A scan collects what its tokens record. -/
theorem scanTokens_eq_foldl (path text : String) (tokens : List Token) (options : ScanOptions) :
    scanTokens path text tokens options =
      (recordsFrom (.ofText text) text options (LineIndex.ofText text).cursor tokens).foldl
        (fun s e => s.insert e.1 e.2) (.empty path) := by
  have h : ∀ progress : ScanProgress,
      (tokens.foldl (ScanProgress.step (.ofText text) text options) progress).tags =
        (recordsFrom (.ofText text) text options progress.cursor tokens).foldl
          (fun s e => s.insert e.1 e.2) progress.tags := by
    induction tokens with
    | nil => exact fun _ => rfl
    | cons token tokens ih =>
      intro progress
      rw [List.foldl_cons, ih, ScanProgress.step, recordsFrom]
      split
      · cases symbolOf? options.strip token.text <;> rfl
      · rfl
  exact h _

theorem isReferenceIn_of_mem_recordsFrom {text : String} {options : ScanOptions}
    {cursor : LineCursor} {tokens : List Token} {e : TagKey × String}
    (h : e ∈ recordsFrom (.ofText text) text options cursor tokens) :
    IsReferenceIn text e.1 e.2 := by
  induction tokens generalizing cursor with
  | nil => exact absurd h List.not_mem_nil
  | cons token tokens ih =>
    rw [recordsFrom] at h
    split at h
    · dsimp only at h
      split at h
      · next symbol hsymbol =>
        rcases List.mem_cons.mp h with rfl | h
        · obtain ⟨hnonempty, hblank⟩ := not_isBlank_of_mem_symbolOf? hsymbol
          exact ⟨rfl, hnonempty, hblank, LineIndex.lineText_ofText text _⟩
        · exact ih h
      · exact ih h
    · exact ih h

theorem isReferenceIn_scanTokens (path text : String) (tokens : List Token)
    (options : ScanOptions) : (scanTokens path text tokens options).All (IsReferenceIn text) := by
  rw [scanTokens_eq_foldl]
  exact (TagSet.all_empty path).foldl_insert fun _ he => isReferenceIn_of_mem_recordsFrom he

@[simp] theorem path_scanTokens (path text : String) (tokens : List Token)
    (options : ScanOptions) : (scanTokens path text tokens options).path = path := by
  rw [scanTokens_eq_foldl, TagSet.path_foldl_insert]
  rfl

theorem inOrder_scanTokens (path text : String) (tokens : List Token)
    (options : ScanOptions) : (scanTokens path text tokens options).InOrder := by
  rw [scanTokens_eq_foldl]
  exact (TagSet.inOrder_empty path).foldl_insert _

namespace Scanner

variable {scanner : Scanner} {path : String} {tags : TagSet}

/-- A file has the references of its text, or none. -/
theorem scanPath_cases (h : scanner.scanPath path = .ok tags) :
    tags = .empty path ∨ ∃ text tokens, scanner.textOf? path = some text ∧
      tags = scanTokens path text tokens scanner.options := by
  unfold scanPath at h
  split at h
  · exact absurd h (by simp)
  · exact .inl (Except.ok.inj h).symm
  · next grammar _ =>
    split at h
    · exact .inl (Except.ok.inj h).symm
    · next text htext =>
      unfold scanSource at h
      cases htree : scanner.trees grammar text with
      | error e =>
        rw [htree] at h
        exact absurd h (by simp [Except.map])
      | ok tree =>
        rw [htree] at h
        exact .inr ⟨text, _, htext, (Except.ok.inj h).symm⟩

theorem path_scanPath (h : scanner.scanPath path = .ok tags) : tags.path = path := by
  rcases scanPath_cases h with rfl | ⟨text, tokens, -, rfl⟩
  · rfl
  · exact path_scanTokens path text tokens _

theorem inOrder_scanPath (h : scanner.scanPath path = .ok tags) : tags.InOrder := by
  rcases scanPath_cases h with rfl | ⟨text, tokens, -, rfl⟩
  · exact TagSet.inOrder_empty path
  · exact inOrder_scanTokens path text tokens _

theorem onOneLine_scanPath (h : scanner.scanPath path = .ok tags) :
    tags.All TagKey.OnOneLine := by
  rcases scanPath_cases h with rfl | ⟨text, tokens, -, rfl⟩
  · exact TagSet.all_empty path
  · exact (isReferenceIn_scanTokens path text tokens _).imp fun _ _ h => h.onOneLine

theorem all_reference_scanPath (h : scanner.scanPath path = .ok tags) :
    tags.All fun key _ => key.kind = .reference := by
  rcases scanPath_cases h with rfl | ⟨text, tokens, -, rfl⟩
  · exact TagSet.all_empty path
  · exact (isReferenceIn_scanTokens path text tokens _).imp fun _ _ h => h.kind

end Scanner

end CodeTags
