/-!
# Tags

A tag says that a symbol stands on a line of a file, and shows that line.

* `TagKind`: whether the symbol is defined there or only used.
* `TagKey`: what tells two tags of one file apart; `TagKey.Before` is the order of a listing.
* `Tag`: the key together with the path of the file and the text of the line, its image.
* `TagKey.before_trichotomy`: of two different keys exactly one comes first, with
  `TagKey.before_irrefl` and `TagKey.Before.trans`.
-/

namespace CodeTags

/-- The symbol is used or defined at its place. -/
inductive TagKind where
  | reference
  | definition
deriving DecidableEq, Repr

/-- The letter that stands for the kind in every listing. -/
def TagKind.letter : TagKind → Char
  | .reference => 'R'
  | .definition => 'D'

/-- What tells two tags of one file apart. -/
structure TagKey where
  line : Nat
  symbol : String
  kind : TagKind
deriving DecidableEq, Repr

/-- One tag: its key, the path of its file, and the text of its line. -/
structure Tag where
  kind : TagKind
  symbol : String
  line : Nat
  path : String
  image : String
deriving DecidableEq, Repr

/-- The tag with this key in a file. -/
def TagKey.toTag (k : TagKey) (path image : String) : Tag :=
  ⟨k.kind, k.symbol, k.line, path, image⟩

/-- The key of a tag. -/
def Tag.key (t : Tag) : TagKey := ⟨t.line, t.symbol, t.kind⟩

@[simp] theorem TagKey.key_toTag (k : TagKey) (path image : String) :
    (k.toTag path image).key = k := rfl

/-! ## The order of a listing -/

/-- By line, then by symbol, and a reference before a definition. -/
def TagKey.Before (a b : TagKey) : Prop :=
  a.line < b.line ∨
    a.line = b.line ∧
      (a.symbol < b.symbol ∨
        a.symbol = b.symbol ∧ a.kind = .reference ∧ b.kind = .definition)

instance (a b : TagKey) : Decidable (a.Before b) := by unfold TagKey.Before; infer_instance

namespace TagKey

theorem before_irrefl (a : TagKey) : ¬a.Before a := by
  rintro (h | ⟨-, h | ⟨-, h, h'⟩⟩)
  · exact Nat.lt_irrefl _ h
  · exact String.lt_irrefl _ h
  · exact absurd (h.symm.trans h') (by decide)

theorem Before.trans {a b c : TagKey} (hab : a.Before b) (hbc : b.Before c) : a.Before c := by
  rcases hab with hab | ⟨hl, hab⟩ <;> rcases hbc with hbc | ⟨hl', hbc⟩
  · exact .inl (Nat.lt_trans hab hbc)
  · exact .inl (hl' ▸ hab)
  · exact .inl (hl ▸ hbc)
  · refine .inr ⟨hl.trans hl', ?_⟩
    rcases hab with hab | ⟨hs, hk, hk'⟩ <;> rcases hbc with hbc | ⟨hs', hk2, hk3⟩
    · exact .inl (String.lt_trans hab hbc)
    · exact .inl (hs' ▸ hab)
    · exact .inl (hs ▸ hbc)
    · exact absurd (hk'.symm.trans hk2) (by decide)

theorem before_trichotomy (a b : TagKey) : a.Before b ∨ a = b ∨ b.Before a := by
  rcases Nat.lt_trichotomy a.line b.line with h | h | h
  · exact .inl (.inl h)
  · by_cases hs : a.symbol < b.symbol
    · exact .inl (.inr ⟨h, .inl hs⟩)
    · by_cases hs' : b.symbol < a.symbol
      · exact .inr (.inr (.inr ⟨h.symm, .inl hs'⟩))
      · have he : a.symbol = b.symbol :=
          String.le_antisymm (String.not_lt.mp hs') (String.not_lt.mp hs)
        obtain ⟨la, sa, ka⟩ := a
        obtain ⟨lb, sb, kb⟩ := b
        simp only at h he
        subst h he
        cases ka <;> cases kb
        · exact .inr (.inl rfl)
        · exact .inl (.inr ⟨rfl, .inr ⟨rfl, rfl, rfl⟩⟩)
        · exact .inr (.inr (.inr ⟨rfl, .inr ⟨rfl, rfl, rfl⟩⟩))
        · exact .inr (.inl rfl)
  · exact .inr (.inr (.inl h))

end TagKey

end CodeTags
