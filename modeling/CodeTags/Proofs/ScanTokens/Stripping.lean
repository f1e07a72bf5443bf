import CodeTags.Proofs.ScanTokens

/-!
# References without the marks around them

A scan can leave out the marks around names. The tokens that give a symbol are then fewer, but all
names move the cursor, so those that are left are on the same lines as before.

* `stripMarks?`: a symbol without the marks around it; `symbolOf?_true`: a scan that strips names
  gives these symbols.
* `TagSet.stripped`: a set of tags with such symbols.
* `recordsFrom_true`: what tokens record is what they record otherwise, stripped.
* `scanTokens_true`: so is what a scan gives. Tags that become the same are on one line, and have
  its text for an image.
-/

namespace CodeTags

/-! ## Symbols and tags -/

/-- A symbol without the marks around it, if anything is left of it. -/
def stripMarks? (symbol : String) : Option String :=
  if trim isSymbolMark symbol.toList = [] then none
  else some (String.ofList (trim isSymbolMark symbol.toList))

/-- The key with a stripped symbol. -/
def TagKey.stripped? (key : TagKey) : Option TagKey :=
  (stripMarks? key.symbol).map fun symbol => { key with symbol := symbol }

/-- An entry with a stripped symbol and the same image. -/
def strippedTag? (e : TagKey × String) : Option (TagKey × String) :=
  e.1.stripped?.map fun key => (key, e.2)

/-- The tags with stripped symbols, without those of which nothing is left. -/
def TagSet.stripped (tags : TagSet) : TagSet :=
  (tags.entries.filterMap strippedTag?).foldl (fun s e => s.insert e.1 e.2) (.empty tags.path)

theorem symbolOf?_true (name : String) :
    symbolOf? true name = (symbolOf? false name).bind stripMarks? := by
  rw [symbolOf?, symbolOf?]
  generalize name.toList.filter (!isBlank ·) = bare
  by_cases hbare : bare = []
  · subst hbare
    rfl
  · simp [hbare, stripMarks?]

theorem TagKey.line_of_stripped? {key key' : TagKey} (h : key.stripped? = some key') :
    key.line = key'.line := by
  obtain ⟨symbol, -, rfl⟩ := Option.map_eq_some_iff.mp h
  rfl

/-- Only the symbol changes. -/
theorem strippedTag?_eq_some_iff {e e' : TagKey × String} :
    strippedTag? e' = some e ↔
      ∃ symbol, e' = (⟨e.1.line, symbol, e.1.kind⟩, e.2) ∧
        stripMarks? symbol = some e.1.symbol := by
  obtain ⟨⟨line, core, kind⟩, image⟩ := e
  obtain ⟨⟨line', symbol', kind'⟩, image'⟩ := e'
  simp only [strippedTag?, TagKey.stripped?, Option.map_map, Option.map_eq_some_iff,
    Function.comp_apply, Prod.mk.injEq, TagKey.mk.injEq]
  constructor
  · rintro ⟨_, hcore, ⟨rfl, rfl, rfl⟩, rfl⟩
    exact ⟨symbol', ⟨⟨rfl, rfl, rfl⟩, rfl⟩, hcore⟩
  · rintro ⟨_, ⟨⟨rfl, rfl, rfl⟩, rfl⟩, hcore⟩
    exact ⟨core, hcore, ⟨rfl, rfl, rfl⟩, rfl⟩

/-! ## Records -/

theorem recordsFrom_true (index : LineIndex) (text : String) (cursor : LineCursor)
    (tokens : List Token) :
    recordsFrom index text ⟨true⟩ cursor tokens =
      (recordsFrom index text ⟨false⟩ cursor tokens).filterMap strippedTag? := by
  induction tokens generalizing cursor with
  | nil => rfl
  | cons token tokens ih =>
    rw [recordsFrom, recordsFrom]
    split
    · dsimp only
      rw [symbolOf?_true]
      cases symbolOf? false token.text with
      | none => exact ih _
      | some symbol =>
        rw [Option.bind_some, List.filterMap_cons, strippedTag?, TagKey.stripped?]
        cases stripMarks? symbol with
        | none => exact ih _
        | some core => exact congrArg _ (ih _)
    · exact ih cursor

/-! ## Scans -/

section Scan

variable {path text : String} {tokens : List Token} {options : ScanOptions} {e : TagKey × String}

theorem image_of_mem_scanTokens (h : e ∈ (scanTokens path text tokens options).entries) :
    e.2 = (LineIndex.ofText text).lineText text e.1.line :=
  (mem_recordsFrom_iff.mp (mem_entries_scanTokens.mp h)).2.1

/-- Stripped tags are on their lines and show them, so none takes the image of another. -/
theorem mem_entries_stripped :
    e ∈ (scanTokens path text tokens options).stripped.entries ↔
      ∃ e' ∈ (scanTokens path text tokens options).entries, strippedTag? e' = some e := by
  have himages : ∀ e ∈ (scanTokens path text tokens options).entries.filterMap strippedTag?,
      e.2 = (LineIndex.ofText text).lineText text e.1.line := by
    intro e he
    obtain ⟨e', he', hstripped⟩ := List.mem_filterMap.mp he
    obtain ⟨symbol, rfl, -⟩ := strippedTag?_eq_some_iff.mp hstripped
    exact (image_of_mem_scanTokens he' :)
  rw [TagSet.stripped, TagSet.mem_entries_foldl_insert
    (fun key => (LineIndex.ofText text).lineText text key.line) himages, List.mem_filterMap]

theorem mem_entries_scanTokens_true :
    e ∈ (scanTokens path text tokens ⟨true⟩).entries ↔
      ∃ e' ∈ (scanTokens path text tokens ⟨false⟩).entries, strippedTag? e' = some e := by
  rw [mem_entries_scanTokens, recordsFrom_true, List.mem_filterMap]
  simp only [mem_entries_scanTokens]

end Scan

/-- **References without the marks around them.** With stripping on, a scan gives the tags that it
gives otherwise, stripped: without the marks at both ends of their symbols, on the same lines with
the same images, and without those of which nothing is left. Tags that become the same had the same
image. The tokens can be any, in any order. -/
theorem scanTokens_true (path text : String) (tokens : List Token) :
    let plain := scanTokens path text tokens ⟨false⟩
    let bare := scanTokens path text tokens ⟨true⟩
    bare = plain.stripped ∧
    (∀ key image, bare.get? key = some image ↔
      ∃ symbol, plain.get? ⟨key.line, symbol, key.kind⟩ = some image ∧
        stripMarks? symbol = some key.symbol) ∧
    ∀ e ∈ plain.entries, ∀ e' ∈ plain.entries, ∀ key, e.1.stripped? = some key →
      e'.1.stripped? = some key → e.2 = e'.2 := by
  intro plain bare
  have hplain : plain.InOrder := inOrder_scanTokens path text tokens ⟨false⟩
  have hbare : bare.InOrder := inOrder_scanTokens path text tokens ⟨true⟩
  have hstripped : plain.stripped.InOrder := (TagSet.inOrder_empty plain.path).foldl_insert _
  have hpath : bare.path = plain.stripped.path := by
    rw [TagSet.stripped, TagSet.path_foldl_insert]
    exact (path_scanTokens ..).trans (path_scanTokens ..).symm
  refine ⟨hbare.eq_of_get?_eq hstripped hpath fun key => Option.ext fun image => ?_,
    fun key image => ?_, fun e he e' he' key hkey hkey' => ?_⟩
  · rw [← hbare.mem_entries_iff, ← hstripped.mem_entries_iff, mem_entries_scanTokens_true,
      mem_entries_stripped]
  · rw [← hbare.mem_entries_iff, mem_entries_scanTokens_true]
    simp only [strippedTag?_eq_some_iff, ← hplain.mem_entries_iff]
    constructor
    · rintro ⟨_, hmem, symbol, rfl, hcore⟩
      exact ⟨symbol, hmem, hcore⟩
    · rintro ⟨symbol, hmem, hcore⟩
      exact ⟨_, hmem, symbol, rfl, hcore⟩
  · rw [image_of_mem_scanTokens he, image_of_mem_scanTokens he', TagKey.line_of_stripped? hkey,
      TagKey.line_of_stripped? hkey']

/-- Two symbols become one, and nothing is left of the third. -/
example : (scanTokens "a.c" "$a a\n:" [⟨0, .name .plain, "$a"⟩, ⟨3, .name .plain, "a"⟩,
    ⟨5, .name .plain, ":"⟩] ⟨true⟩).entries = [(⟨1, "a", .reference⟩, "$a a")] := by
  decide +kernel

end CodeTags
