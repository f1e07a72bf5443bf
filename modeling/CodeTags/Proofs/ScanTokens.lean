import CodeTags.Proofs.LineCursor
import CodeTags.Proofs.ReferenceScan

/-!
# What a scan of tokens gives

The tokens of a tree come one behind the other, but a scan takes any tokens, in any order and with
places that the text does not have. Its cursor never goes back, so a name is put on the line of the
farthest name so far, also of one that gives no symbol. Other tokens count for nothing.

* `nameOffsets`: where the names among tokens begin.
* `NamesAt`: a token names a symbol, and a line by the farthest of the names up to it.
* `mem_recordsFrom_iff`: what tokens record in turn.
* `recordsFrom_filter`: only the names among them record anything.
* `mem_entries_scanTokens`: a scan holds just that.
* `scanTokens_of_names`: the keys and the images of a scan.
-/

namespace CodeTags

/-- Where the names among tokens begin. -/
def nameOffsets (tokens : List Token) : List Nat :=
  (tokens.filter (·.tokenClass.isName)).map (·.offset)

/-- Token number `i` is a name that gives the symbol, and the line is that of the farthest place at
which one of the names up to this token begins. -/
def NamesAt (lineOf : Nat → Nat) (strip : Bool) (tokens : List Token) (i : Nat) (symbol : String)
    (line : Nat) : Prop :=
  (∃ token, tokens[i]? = some token ∧ token.tokenClass.isName = true ∧
    symbolOf? strip token.text = some symbol) ∧
  ∃ farthest, (nameOffsets (tokens.take (i + 1))).max? = some farthest ∧ line = lineOf farthest

section NamesAt

variable {lineOf : Nat → Nat} {strip : Bool} {token : Token} {tokens : List Token} {i : Nat}
  {symbol : String} {line : Nat}

theorem nameOffsets_cons_of_name (h : token.tokenClass.isName = true) (tokens : List Token) :
    nameOffsets (token :: tokens) = token.offset :: nameOffsets tokens := by
  simp [nameOffsets, h]

theorem nameOffsets_cons_of_other (h : token.tokenClass.isName = false) (tokens : List Token) :
    nameOffsets (token :: tokens) = nameOffsets tokens := by
  simp [nameOffsets, h]

/-- Among names there is a farthest one. -/
theorem exists_max?_nameOffsets (hi : tokens[i]? = some token)
    (h : token.tokenClass.isName = true) :
    ∃ farthest, (nameOffsets (tokens.take (i + 1))).max? = some farthest := by
  have hmem : token ∈ tokens.take (i + 1) := by
    refine List.mem_of_getElem? (i := i) ?_
    rw [List.getElem?_take_of_lt (Nat.lt_succ_self i), hi]
  have hoffset : token.offset ∈ nameOffsets (tokens.take (i + 1)) :=
    List.mem_map_of_mem (List.mem_filter.mpr ⟨hmem, h⟩)
  cases hmax : (nameOffsets (tokens.take (i + 1))).max? with
  | none => simp [List.max?_eq_none_iff.mp hmax] at hoffset
  | some farthest => exact ⟨farthest, rfl⟩

/-- Behind a name no place before its own counts. -/
theorem exists_namesAt_cons_of_name (h : token.tokenClass.isName = true) :
    (∃ i, NamesAt lineOf strip (token :: tokens) i symbol line) ↔
      (symbolOf? strip token.text = some symbol ∧ line = lineOf token.offset) ∨
        ∃ i, NamesAt (fun offset => lineOf (max token.offset offset)) strip tokens i symbol
          line := by
  have hfirst : NamesAt lineOf strip (token :: tokens) 0 symbol line ↔
      symbolOf? strip token.text = some symbol ∧ line = lineOf token.offset := by
    simp [NamesAt, nameOffsets, h]
  have hlater : ∀ i, NamesAt lineOf strip (token :: tokens) (i + 1) symbol line ↔
      NamesAt (fun offset => lineOf (max token.offset offset)) strip tokens i symbol line := by
    intro i
    rw [NamesAt, NamesAt, List.getElem?_cons_succ, List.take_succ_cons, nameOffsets_cons_of_name h,
      List.max?_cons]
    -- Only where the later token is a name is there a farthest one behind the first.
    refine and_congr_right fun ⟨token', hi, h', _⟩ => ?_
    obtain ⟨farthest, hfarthest⟩ := exists_max?_nameOffsets hi h'
    simp [hfarthest]
  rw [← Nat.or_exists_add_one, hfirst, exists_congr hlater]

theorem exists_namesAt_cons_of_other (h : token.tokenClass.isName = false) :
    (∃ i, NamesAt lineOf strip (token :: tokens) i symbol line) ↔
      ∃ i, NamesAt lineOf strip tokens i symbol line := by
  have hfirst : ¬NamesAt lineOf strip (token :: tokens) 0 symbol line := by
    simp [NamesAt, h]
  have hlater : ∀ i, NamesAt lineOf strip (token :: tokens) (i + 1) symbol line ↔
      NamesAt lineOf strip tokens i symbol line := by
    intro i
    rw [NamesAt, NamesAt, List.getElem?_cons_succ, List.take_succ_cons,
      nameOffsets_cons_of_other h]
  rw [← Nat.or_exists_add_one, or_iff_right hfirst, exists_congr hlater]

end NamesAt

/-! ## Records -/

section Records

variable {index : LineIndex} {text : String} {options : ScanOptions} {cursor : LineCursor}
  {token : Token} {tokens : List Token} {e : TagKey × String}

/-- A name records its symbol on the line to which the cursor comes, and the cursor stays there. -/
theorem mem_recordsFrom_cons_of_name (h : token.tokenClass.isName = true) :
    e ∈ recordsFrom index text options cursor (token :: tokens) ↔
      (e.1.kind = .reference ∧ e.2 = index.lineText text e.1.line ∧
        symbolOf? options.strip token.text = some e.1.symbol ∧
        e.1.line = (cursor.advance token.offset).line) ∨
      e ∈ recordsFrom index text options (cursor.advance token.offset) tokens := by
  rw [recordsFrom, if_pos h, LineCursor.lineOf]
  dsimp only
  cases hsymbol : symbolOf? options.strip token.text with
  | none => simp
  | some symbol =>
    rw [List.mem_cons]
    refine or_congr_left ⟨?_, ?_⟩
    · rintro rfl
      exact ⟨rfl, rfl, rfl, rfl⟩
    · obtain ⟨⟨line, symbol', kind⟩, image⟩ := e
      rintro ⟨hkind, himage, heq, hline⟩
      dsimp only at hkind himage heq hline
      rw [hkind, himage, ← Option.some.inj heq, hline]

theorem recordsFrom_cons_of_other (h : token.tokenClass.isName = false) :
    recordsFrom index text options cursor (token :: tokens) =
      recordsFrom index text options cursor tokens := by
  rw [recordsFrom, if_neg (by simp [h])]

/-- What tokens record is what they name, each with the line to which the cursor has come. -/
theorem mem_recordsFrom_iff : e ∈ recordsFrom index text options cursor tokens ↔
    e.1.kind = .reference ∧ e.2 = index.lineText text e.1.line ∧
      ∃ i, NamesAt (fun offset => (cursor.advance offset).line) options.strip tokens i
        e.1.symbol e.1.line := by
  -- What the cursor has passed is in the function from places to lines, which changes with it.
  induction tokens generalizing cursor with
  | nil => simp [recordsFrom, NamesAt]
  | cons token tokens ih =>
    by_cases h : token.tokenClass.isName = true
    · rw [mem_recordsFrom_cons_of_name h, ih, exists_namesAt_cons_of_name h]
      simp only [LineCursor.advance_advance, ← and_or_left]
    · rw [Bool.not_eq_true] at h
      rw [recordsFrom_cons_of_other h, ih, exists_namesAt_cons_of_other h]

end Records

/-- Tokens that are no names record nothing and leave the cursor where it is. -/
theorem recordsFrom_filter (index : LineIndex) (text : String) (options : ScanOptions)
    (cursor : LineCursor) (tokens : List Token) :
    recordsFrom index text options cursor (tokens.filter (·.tokenClass.isName)) =
      recordsFrom index text options cursor tokens := by
  induction tokens generalizing cursor with
  | nil => rfl
  | cons token tokens ih =>
    by_cases h : token.tokenClass.isName = true
    · rw [List.filter_cons_of_pos (p := fun t : Token => t.tokenClass.isName) h, recordsFrom,
        recordsFrom, if_pos h, if_pos h]
      simp only [ih]
    · rw [List.filter_cons_of_neg (p := fun t : Token => t.tokenClass.isName) h, ih,
        recordsFrom_cons_of_other (by simpa using h)]

/-! ## Scans -/

/-- A scan holds what its tokens record. -/
theorem mem_entries_scanTokens {path text : String} {tokens : List Token} {options : ScanOptions}
    {e : TagKey × String} :
    e ∈ (scanTokens path text tokens options).entries ↔
      e ∈ recordsFrom (.ofText text) text options (LineIndex.ofText text).cursor tokens := by
  rw [scanTokens_eq_foldl, TagSet.mem_entries_foldl_insert
    (fun key => (LineIndex.ofText text).lineText text key.line)
    fun e he => (mem_recordsFrom_iff.mp he).2.1]

theorem get?_scanTokens_eq_some_iff {path text : String} {tokens : List Token}
    {options : ScanOptions} {key : TagKey} {image : String} :
    (scanTokens path text tokens options).get? key = some image ↔
      key.kind = .reference ∧ image = (LineIndex.ofText text).lineText text key.line ∧
        ∃ i, NamesAt (lineNumberAt text) options.strip tokens i key.symbol key.line := by
  have hline : (fun offset => ((LineIndex.ofText text).cursor.advance offset).line) =
      lineNumberAt text := funext (line_advance_cursor text)
  rw [← (inOrder_scanTokens path text tokens options).mem_entries_iff, mem_entries_scanTokens,
    mem_recordsFrom_iff, hline]

/-- **What a scan of tokens gives.** Whatever the tokens are and in whatever order they come, the
references have the path that is given. A key is among them exactly if it is that of a reference and
some token is a name with its symbol, while the farthest of the names up to that token, those
without a symbol among them, begins on its line. The image is the text of the line. Tokens that are
no names can be put in or left out anywhere. -/
theorem scanTokens_of_names (path text : String) (tokens : List Token) (options : ScanOptions) :
    let tags := scanTokens path text tokens options
    tags.path = path ∧
    (∀ key, tags.contains key = true ↔ key.kind = .reference ∧
      ∃ i, NamesAt (lineNumberAt text) options.strip tokens i key.symbol key.line) ∧
    (∀ key, tags.contains key = true →
      tags.get? key = some ((LineIndex.ofText text).lineText text key.line)) ∧
    ∀ tokens', tokens'.filter (·.tokenClass.isName) = tokens.filter (·.tokenClass.isName) →
      scanTokens path text tokens' options = tags := by
  intro tags
  have hcontains : ∀ key, tags.contains key = true ↔ ∃ image, tags.get? key = some image :=
    fun key => Option.isSome_iff_exists
  refine ⟨path_scanTokens path text tokens options, fun key => ?_, fun key hkey => ?_,
    fun tokens' hnames => ?_⟩
  · rw [hcontains]
    constructor
    · rintro ⟨image, himage⟩
      obtain ⟨hkind, -, hnames⟩ := get?_scanTokens_eq_some_iff.mp himage
      exact ⟨hkind, hnames⟩
    · rintro ⟨hkind, hnames⟩
      exact ⟨_, get?_scanTokens_eq_some_iff.mpr ⟨hkind, rfl, hnames⟩⟩
  · obtain ⟨image, himage⟩ := (hcontains key).mp hkey
    rw [himage, (get?_scanTokens_eq_some_iff.mp himage).2.1]
  · show scanTokens path text tokens' options = scanTokens path text tokens options
    rw [scanTokens_eq_foldl, scanTokens_eq_foldl, ← recordsFrom_filter _ _ _ _ tokens', hnames,
      recordsFrom_filter]

/-- The second name has no symbol, but the third, which begins before it, is put on its line. -/
example : (scanTokens "a.c" "x\n\ny" [⟨0, .name .plain, "x"⟩, ⟨3, .name .plain, " "⟩,
    ⟨0, .name .plain, "z"⟩, ⟨99, .comment, "y"⟩] ⟨false⟩).entries =
    [(⟨1, "x", .reference⟩, "x"), (⟨3, "z", .reference⟩, "y")] := by decide +kernel

end CodeTags
