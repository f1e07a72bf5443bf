import CodeTags.Proofs.ReferenceScan

/-!
# What a symbol is

A symbol is what is left of a name without its blanks and, on request, without the marks at both
ends.

* `IsCore`: what is left of a list without elements of a class at both ends; `trim_eq_iff`: this is
  what trimming gives, and nothing else is.
* `IsMark`: the marks that can go, by what they are not.
* `IsSymbolIn`: the parts of a text without blanks, of which the symbol is one.
* `symbolOf?_eq_none_iff`: which names have no symbol.
* `symbolOf?_of_parts`: all that can be said about a symbol.
-/

namespace CodeTags

/-! ## Trimming at both ends -/

/-- What is left of a list when elements of a class are taken off both ends, up to the first and the
last that are not in the class. -/
structure IsCore {α : Type} (p : α → Bool) (xs core : List α) : Prop where
  parts : ∃ front back, xs = front ++ core ++ back ∧ (∀ a ∈ front, p a = true) ∧
    ∀ a ∈ back, p a = true
  head : ∀ a ∈ core.head?, p a = false
  last : ∀ a ∈ core.getLast?, p a = false

section Trim

variable {α : Type} {p : α → Bool} {xs : List α}

theorem isCore_trim (p : α → Bool) (xs : List α) : IsCore p xs (trim p xs) := by
  have hdrop : ∀ a ∈ (xs.dropWhile p).head?, p a = false := fun _ => not_of_mem_head?_dropWhile
  refine ⟨⟨xs.takeWhile p, ((xs.dropWhile p).reverse.takeWhile p).reverse, ?_, ?_, ?_⟩, ?_, ?_⟩
  · rw [List.append_assoc, trim, trimEnd_append_self, List.takeWhile_append_dropWhile]
  · exact fun a ha => List.all_eq_true.mp List.all_takeWhile a ha
  · exact fun a ha => List.all_eq_true.mp List.all_takeWhile a (List.mem_reverse.mp ha)
  · intro a ha
    rw [trim, head?_trimEnd hdrop] at ha
    exact hdrop a ha
  · exact fun a ha => not_of_mem_getLast?_trimEnd ha

/-- A list has only one core. -/
theorem IsCore.eq_trim {core : List α} (h : IsCore p xs core) : trim p xs = core := by
  obtain ⟨front, back, rfl, hfront, hback⟩ := h.parts
  rw [trim, List.append_assoc, List.dropWhile_append_of_pos hfront]
  cases core with
  | nil =>
    have hnil : back.dropWhile p = [] := by
      rw [← List.append_nil back, List.dropWhile_append_of_pos hback, List.dropWhile_nil]
    rw [List.nil_append, hnil]
    rfl
  | cons a core =>
    have ha : p a = false := h.head a rfl
    rw [List.cons_append, List.dropWhile_cons_of_neg (by simp [ha]), ← List.cons_append,
      trimEnd_append_of_forall hback, trimEnd_of_getLast? h.last]

theorem trim_eq_iff {core : List α} : trim p xs = core ↔ IsCore p xs core :=
  ⟨fun h => h ▸ isCore_trim p xs, IsCore.eq_trim⟩

/-- Nothing is left if and only if all elements are in the class. -/
theorem trim_eq_nil_iff : trim p xs = [] ↔ ∀ a ∈ xs, p a = true := by
  rw [trim_eq_iff]
  constructor
  · rintro ⟨⟨front, back, rfl, hfront, hback⟩, -, -⟩ a ha
    rw [List.append_nil] at ha
    exact (List.mem_append.mp ha).elim (hfront a) (hback a)
  · intro h
    exact ⟨⟨xs, [], by simp, h, by simp⟩, by simp, by simp⟩

/-- A core has nothing at its ends that could be taken off. -/
theorem trim_trim (p : α → Bool) (xs : List α) : trim p (trim p xs) = trim p xs := by
  have h := isCore_trim p xs
  exact IsCore.eq_trim ⟨⟨[], [], by simp, by simp, by simp⟩, h.head, h.last⟩

end Trim

/-! ## Marks -/

/-- The characters of ASCII that can be seen, without letters, digits and the three that belong to
identifiers. -/
def IsMark (c : Char) : Prop :=
  0x20 < c.toNat ∧ c.toNat < 0x7F ∧ c.isAlphanum = false ∧ c ≠ '-' ∧ c ≠ '_' ∧ c ≠ '.'

theorem isAsciiPunctuation_iff {c : Char} :
    isAsciiPunctuation c = true ↔ 0x20 < c.toNat ∧ c.toNat < 0x7F ∧ c.isAlphanum = false := by
  unfold isAsciiPunctuation CodeRanges.has Char.isAlphanum Char.isAlpha Char.isUpper Char.isLower
    Char.isDigit
  simp only [List.any_cons, List.any_nil, Bool.or_false, Bool.or_eq_true, Bool.and_eq_true,
    decide_eq_true_eq, Bool.or_eq_false_iff, Bool.and_eq_false_iff, decide_eq_false_iff_not,
    ge_iff_le, UInt32.le_iff_toNat_le]
  show _ ↔ 0x20 < c.toNat ∧ c.toNat < 0x7F ∧
    (¬(0x41 ≤ c.toNat ∧ c.toNat ≤ 0x5A) ∧ (¬0x61 ≤ c.toNat ∨ ¬c.toNat ≤ 0x7A)) ∧
      (¬0x30 ≤ c.toNat ∨ ¬c.toNat ≤ 0x39)
  omega

theorem isSymbolMark_iff {c : Char} : isSymbolMark c = true ↔ IsMark c := by
  simp only [isSymbolMark, IsMark, Bool.and_eq_true, isAsciiPunctuation_iff, bne_iff_ne, and_assoc,
    ne_eq]

theorem isSymbolMark_eq_false_iff {c : Char} : isSymbolMark c = false ↔ ¬IsMark c := by
  rw [← isSymbolMark_iff, Bool.not_eq_true]

/-! ## Symbols -/

/-- A text without blanks is made up of a symbol and of what is left out in front of it and behind
it. Nothing is left out, or if `strip` marks are, and then no mark is at either end of the
symbol. -/
structure IsSymbolIn (strip : Bool) (bare front symbol back : List Char) : Prop where
  nonempty : symbol ≠ []
  parts : bare = front ++ symbol ++ back
  plain : strip = false → front = [] ∧ back = []
  stripped : strip = true → (∀ c ∈ front, IsMark c) ∧ (∀ c ∈ back, IsMark c) ∧
    (∀ c ∈ symbol.head?, ¬IsMark c) ∧ ∀ c ∈ symbol.getLast?, ¬IsMark c

/-- The parts with stripping are those of a core. -/
theorem exists_isSymbolIn_true_iff {bare symbol : List Char} :
    (∃ front back, IsSymbolIn true bare front symbol back) ↔
      symbol ≠ [] ∧ symbol = trim isSymbolMark bare := by
  rw [eq_comm (a := symbol), trim_eq_iff]
  constructor
  · rintro ⟨front, back, hne, hparts, -, hstripped⟩
    obtain ⟨hfront, hback, hhead, hlast⟩ := hstripped rfl
    exact ⟨hne, ⟨front, back, hparts, fun c hc => isSymbolMark_iff.mpr (hfront c hc),
      fun c hc => isSymbolMark_iff.mpr (hback c hc)⟩,
      fun c hc => isSymbolMark_eq_false_iff.mpr (hhead c hc),
      fun c hc => isSymbolMark_eq_false_iff.mpr (hlast c hc)⟩
  · rintro ⟨hne, ⟨front, back, hparts, hfront, hback⟩, hhead, hlast⟩
    exact ⟨front, back, hne, hparts, by simp, fun _ =>
      ⟨fun c hc => isSymbolMark_iff.mp (hfront c hc), fun c hc => isSymbolMark_iff.mp (hback c hc),
        fun c hc => isSymbolMark_eq_false_iff.mp (hhead c hc),
        fun c hc => isSymbolMark_eq_false_iff.mp (hlast c hc)⟩⟩

/-- The only part without stripping is the whole text. -/
theorem exists_isSymbolIn_false_iff {bare symbol : List Char} :
    (∃ front back, IsSymbolIn false bare front symbol back) ↔ symbol ≠ [] ∧ symbol = bare := by
  constructor
  · rintro ⟨front, back, hne, hparts, hplain, -⟩
    obtain ⟨rfl, rfl⟩ := hplain rfl
    exact ⟨hne, by simp [hparts]⟩
  · rintro ⟨hne, rfl⟩
    exact ⟨[], [], hne, by simp, by simp, by simp⟩

theorem symbolOf?_eq_none_iff {strip : Bool} {name : String} :
    symbolOf? strip name = none ↔ name.toList.filter (!isBlank ·) = [] ∨
      strip = true ∧ ∀ c ∈ name.toList.filter (!isBlank ·), IsMark c := by
  unfold symbolOf?
  generalize name.toList.filter (!isBlank ·) = bare
  have hnone : ∀ core : List Char,
      (if core = [] then none else some (String.ofList core)) = none ↔ core = [] := by
    intro core
    split <;> simp [*]
  dsimp only
  rw [hnone]
  cases strip with
  | false => simp
  | true =>
    rw [if_pos rfl, trim_eq_nil_iff]
    simp only [isSymbolMark_iff, true_and]
    constructor
    · exact .inr
    · rintro (rfl | hmarks)
      · exact fun c hc => absurd hc List.not_mem_nil
      · exact hmarks

/-- The symbol of a symbol is the symbol. -/
theorem symbolOf?_of_symbolOf? {strip : Bool} {name symbol : String}
    (h : symbolOf? strip name = some symbol) : symbolOf? strip symbol = some symbol := by
  obtain ⟨hne, hblank⟩ := not_isBlank_of_mem_symbolOf? h
  obtain ⟨-, hsymbol⟩ := symbolOf?_eq_some_iff.mp h
  have hbare : symbol.toList.filter (!isBlank ·) = symbol.toList :=
    List.filter_eq_self.mpr fun c hc => by rw [hblank c hc]; rfl
  refine symbolOf?_eq_some_iff.mpr ⟨hne, ?_⟩
  rw [hbare]
  cases strip with
  | false => rfl
  | true =>
    rw [if_pos rfl] at hsymbol ⊢
    rw [hsymbol, trim_trim]

/-- **Symbols.** A name has no symbol if nothing of it is left without blanks or, with stripping,
only marks are. Otherwise its symbol is the one part of what is left that has nothing around it or,
with stripping, marks around it and none at its own ends. The symbol of a symbol is the symbol
itself. -/
theorem symbolOf?_of_parts (strip : Bool) (name : String) :
    let bare := name.toList.filter (!isBlank ·)
    (symbolOf? strip name = none ↔ bare = [] ∨ strip = true ∧ ∀ c ∈ bare, IsMark c) ∧
    (∀ symbol, symbolOf? strip name = some symbol ↔
      ∃ front back, IsSymbolIn strip bare front symbol.toList back) ∧
    (symbolOf? strip name).bind (symbolOf? strip) = symbolOf? strip name := by
  intro bare
  refine ⟨symbolOf?_eq_none_iff, fun symbol => ?_, ?_⟩
  · rw [symbolOf?_eq_some_iff]
    cases strip with
    | false => exact exists_isSymbolIn_false_iff.symm
    | true => exact exists_isSymbolIn_true_iff.symm
  · cases h : symbolOf? strip name with
    | none => rfl
    | some symbol => exact symbolOf?_of_symbolOf? h

/-- Blanks go first, so marks with blanks between them are at one end. -/
example : symbolOf? true ": :a:b . :" = some "a:b." := by decide +kernel

end CodeTags
