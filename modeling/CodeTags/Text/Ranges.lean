/-!
# Sets of characters given by code ranges

A character property of the Unicode standard is written down as a list of inclusive code ranges.

* `CodeRanges.has`: whether a character lies in one of the ranges.
* `CodeRanges.has_iff`: the same as a statement.
-/

namespace CodeTags

/-- Inclusive ranges of code points, lowest first. -/
abbrev CodeRanges := List (Nat × Nat)

/-- The character lies in one of the ranges. -/
def CodeRanges.has (rs : CodeRanges) (c : Char) : Bool :=
  rs.any fun r => r.1 ≤ c.toNat && c.toNat ≤ r.2

theorem CodeRanges.has_iff {rs : CodeRanges} {c : Char} :
    rs.has c = true ↔ ∃ r ∈ rs, r.1 ≤ c.toNat ∧ c.toNat ≤ r.2 := by
  simp [CodeRanges.has]

/-- No range of one set meets a range of the other. -/
def CodeRanges.apart (rs ss : CodeRanges) : Bool :=
  rs.all fun r => ss.all fun s => r.2 < s.1 || s.2 < r.1

theorem CodeRanges.not_has_of_apart {rs ss : CodeRanges} (h : rs.apart ss = true) {c : Char}
    (hc : rs.has c = true) : ss.has c = false := by
  obtain ⟨r, hr, hlo, hhi⟩ := has_iff.mp hc
  refine Bool.eq_false_iff.mpr fun hs => ?_
  obtain ⟨s, hsm, hslo, hshi⟩ := has_iff.mp hs
  have := List.all_eq_true.mp (List.all_eq_true.mp h r hr) s hsm
  simp only [Bool.or_eq_true, decide_eq_true_eq] at this
  omega

end CodeTags
