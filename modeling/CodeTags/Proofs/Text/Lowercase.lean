import CodeTags.Text.Blank
import CodeTags.Text.Lowercase

/-!
# Lower case and the case of ASCII letters

`Char.toLower` changes ASCII letters only. The full mapping does not tell a text from the same text
with small ASCII letters, whatever other characters are around them: the small form of a sigma
depends on which characters are cased, and ASCII letters are cased either way.

* `toLower_congr`: what is the same of all ASCII letters does not depend on their case.
* `lowerChar_toLower`: neither does the small form of one.
* `lowercase_congr`: texts that differ in the case of ASCII letters are the same in lower case.
-/

namespace CodeTags

/-! ## Characters -/

/-- The code ranges of the letters A to Z and a to z. -/
def asciiLetterRanges : CodeRanges := [(0x41, 0x5A), (0x61, 0x7A)]

theorem toLower_cases (c : Char) :
    c.toLower = c ∨ 0x41 ≤ c.toNat ∧ c.toNat ≤ 0x5A ∧ c.toLower.toNat = c.toNat + 32 := by
  unfold Char.toLower
  split
  · next h =>
    simp only [ge_iff_le, UInt32.le_iff_toNat_le] at h
    have hlo : 0x41 ≤ c.toNat := h.1
    have hhi : c.toNat ≤ 0x5A := h.2
    refine .inr ⟨hlo, hhi, ?_⟩
    show (c.val + 32).toNat = c.toNat + 32
    rw [UInt32.toNat_add]
    show (c.toNat + 32) % 2 ^ 32 = c.toNat + 32
    omega
  · exact .inl rfl

/-- What is the same of all ASCII letters does not depend on their case. -/
theorem toLower_congr {β : Type} {f : Char → β} {b : β}
    (h : ∀ c, asciiLetterRanges.has c = true → f c = b) (c : Char) : f c.toLower = f c := by
  rcases toLower_cases c with hself | ⟨hlo, hhi, hsmall⟩
  · rw [hself]
  · have hc : asciiLetterRanges.has c = true :=
      CodeRanges.has_iff.mpr ⟨(0x41, 0x5A), by decide, hlo, hhi⟩
    have hc' : asciiLetterRanges.has c.toLower = true :=
      CodeRanges.has_iff.mpr ⟨(0x61, 0x7A), by decide, by dsimp only; omega, by dsimp only; omega⟩
    rw [h c hc, h _ hc']

theorem isCased_toLower (c : Char) : isCased c.toLower = isCased c := by
  apply toLower_congr (b := true)
  intro c hc
  obtain ⟨r, hr, hcode⟩ := CodeRanges.has_iff.mp hc
  have hsub : asciiLetterRanges ⊆ casedRanges := by decide +kernel
  exact CodeRanges.has_iff.mpr ⟨r, hsub hr, hcode⟩

theorem isCaseIgnorable_toLower (c : Char) : isCaseIgnorable c.toLower = isCaseIgnorable c :=
  toLower_congr (fun _ => CodeRanges.not_has_of_apart (by decide +kernel)) c

theorem isBlank_toLower (c : Char) : isBlank c.toLower = isBlank c :=
  toLower_congr (fun _ => CodeRanges.not_has_of_apart (by decide +kernel)) c

/-- A character that is no ASCII letter is the small form of itself alone. -/
theorem toLower_eq_iff {d : Char} (hd : asciiLetterRanges.has d = false) (c : Char) :
    c.toLower = d ↔ c = d := by
  refine iff_of_eq (toLower_congr (f := (· = d)) (b := False) (fun c hc => eq_false ?_) c)
  rintro rfl
  rw [hd] at hc
  cases hc

/-- Small ASCII letters are their own small forms. -/
theorem lowerChar_of_small {c : Char} (hlo : 0x61 ≤ c.toNat) (hhi : c.toNat ≤ 0x7A) :
    lowerChar c = [c] := by
  have hapart : ∀ m ∈ lowerMappings, m.2.1 < 0x61 ∨ 0x7A < m.1 := by decide +kernel
  have hnone : (lowerMappings.find? fun m =>
      m.1 ≤ c.toNat && c.toNat ≤ m.2.1 && (c.toNat - m.1) % m.2.2.1 == 0) = none := by
    rw [List.find?_eq_none]
    intro m hm
    have hm := hapart m hm
    simp only [Bool.and_eq_true, decide_eq_true_eq]
    omega
  have hdot : c ≠ 'İ' := by
    rintro rfl
    exact absurd hhi (by decide)
  unfold lowerChar
  rw [if_neg hdot, hnone]

/-- The small form of an ASCII letter does not depend on its case. -/
theorem lowerChar_toLower (c : Char) : lowerChar c.toLower = lowerChar c := by
  rcases toLower_cases c with hself | ⟨hlo, hhi, hsmall⟩
  · rw [hself]
  · have hfind : (lowerMappings.find? fun m =>
        m.1 ≤ c.toNat && c.toNat ≤ m.2.1 && (c.toNat - m.1) % m.2.2.1 == 0) =
        some (0x41, 0x5A, 1, 32) := by
      rw [show lowerMappings = (0x41, 0x5A, 1, 32) :: lowerMappings.tail from rfl]
      apply List.find?_cons_of_pos
      simp [hlo, hhi, Nat.mod_one]
    have hdot : c ≠ 'İ' := by
      rintro rfl
      exact absurd hhi (by decide)
    have hsum : ((c.toNat : Int) + 32).toNat = c.toLower.toNat := by omega
    rw [lowerChar_of_small (by omega) (by omega), lowerChar, if_neg hdot, hfind]
    dsimp only
    rw [hsum, Char.ofNat_toNat]

/-! ## Texts -/

theorem meetsCased_map_toLower (cs : List Char) :
    meetsCased (cs.map Char.toLower) = meetsCased cs := by
  have hcomp : isCaseIgnorable ∘ Char.toLower = isCaseIgnorable := funext isCaseIgnorable_toLower
  unfold meetsCased
  rw [List.dropWhile_map, hcomp, List.head?_map, Option.any_map]
  simp only [isCased_toLower]

/-- The small form of a character is the same among small ASCII letters. -/
theorem lowerIn_map_toLower (before : List Char) (c : Char) (after : List Char) :
    lowerIn (before.map Char.toLower) c.toLower (after.map Char.toLower) =
      lowerIn before c after := by
  have hsigma : c.toLower = 'Σ' ↔ c = 'Σ' := toLower_eq_iff (by decide) c
  unfold lowerIn endsWord
  rw [meetsCased_map_toLower, meetsCased_map_toLower, lowerChar_toLower]
  simp only [hsigma]

theorem lowerFrom_map_toLower (before cs : List Char) :
    lowerFrom (before.map Char.toLower) (cs.map Char.toLower) = lowerFrom before cs := by
  induction cs generalizing before with
  | nil => rfl
  | cons c cs ih =>
    have hcs := ih (c :: before)
    rw [List.map_cons] at hcs
    rw [List.map_cons, lowerFrom, lowerFrom, lowerIn_map_toLower, hcs]

/-- Texts that differ in the case of ASCII letters only are the same in lower case. -/
theorem lowercase_congr {s t : String} (h : s.toList.map Char.toLower = t.toList.map Char.toLower) :
    lowercase s = lowercase t := by
  have hs := lowerFrom_map_toLower [] s.toList
  have ht := lowerFrom_map_toLower [] t.toList
  unfold lowercase
  rw [← hs, ← ht, h]

end CodeTags
