import CodeTags.Proofs.Pattern
import CodeTags.ReplyLine
import CodeTags.Text.Blank

/-!
# What a reply line can report

* `findReport?_eq_some`: a report is a word, with a number and an image behind it.
* `newline_not_mem_of_parse?`: so a definition holds no line feed.
-/

namespace CodeTags

theorem newline_not_mem_of_imageOf? {cs image : List Char} (h : imageOf? cs = some image) :
    '\n' ∉ image := by
  simp only [imageOf?] at h
  split at h
  · next hc =>
    obtain rfl := Option.some.inj h
    exact hc.2
  · exact absurd h (by simp)

theorem newline_not_mem_of_reportAfter? {path cs digits image : List Char}
    (h : reportAfter? path cs = some (digits, image)) : '\n' ∉ image := by
  simp only [reportAfter?] at h
  split at h
  · exact absurd h (by simp)
  · obtain ⟨⟨run, image'⟩, hrun, heq⟩ := Option.map_eq_some_iff.mp h
    obtain ⟨-, rfl⟩ := Prod.mk.inj heq
    obtain ⟨-, -, behind, -, himage⟩ := longestRun?_eq_some hrun
    obtain ⟨rest, -, hrest⟩ := Option.bind_eq_some_iff.mp himage
    exact newline_not_mem_of_imageOf? hrest

/-- A report that is found is one that follows a word. -/
theorem findReport?_eq_some {path : List Char} {inWord : Bool} {cs : List Char} {r : Report}
    (h : findReport? path inWord cs = some r) :
    r.symbol ≠ [] ∧ (∀ c ∈ r.symbol, isBlank c = false) ∧
      ∃ behind, reportAfter? path behind = some (r.digits, r.image) := by
  induction cs generalizing inWord with
  | nil => exact absurd h (by simp [findReport?])
  | cons c cs ih =>
    rw [findReport?] at h
    split at h
    · exact ih h
    · next hc =>
      split at h
      · exact ih h
      · split at h
        · next digits image hafter =>
          obtain rfl := Option.some.inj h
          refine ⟨List.cons_ne_nil _ _, fun d hd => ?_, _, hafter⟩
          rcases List.mem_cons.mp hd with rfl | hd
          · exact Bool.eq_false_iff.mpr hc
          · simpa using List.all_eq_true.mp List.all_takeWhile d hd
        · exact ih h

/-- A definition that a line reports has a symbol without blanks and an image on one line, whatever
the line and the path are. -/
theorem newline_not_mem_of_parse? {path line : String} {d : Definition}
    (h : Definition.parse? path line = some d) :
    '\n' ∉ d.symbol.toList ∧ '\n' ∉ d.image.toList := by
  obtain ⟨r, hr, hd⟩ := Option.bind_eq_some_iff.mp h
  obtain ⟨n, -, rfl⟩ := Option.map_eq_some_iff.mp hd
  obtain ⟨-, hsymbol, behind, himage⟩ := findReport?_eq_some hr
  rw [String.toList_ofList, String.toList_ofList]
  refine ⟨fun hmem => ?_, newline_not_mem_of_reportAfter? himage⟩
  have := hsymbol _ hmem
  rw [isBlank_newline] at this
  exact absurd this (by decide)

end CodeTags
