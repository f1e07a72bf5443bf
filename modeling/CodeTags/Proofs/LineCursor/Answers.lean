import CodeTags.Proofs.LineCursor
import Mathlib.Data.List.Forall2

/-!
# The answers of a line cursor

One cursor can be asked about many places of a text, in any order and also behind its end. It never
goes back, so it answers for the farthest place so far.

* `LineIndex.Owns`: the line of a place, by the table of the ends of lines. `LineIndex.owns_iff`: it
  is the one that the line feeds before the place give.
* `LineCursor.advanceFrom_spec`: which lines a cursor passes, and on which it stops.
* `LineCursor.linesOf`: the answers to one place after the other.
* `LineCursor.exists_getElem?_linesOf`, `LineCursor.pairwise_linesOf`,
  `LineCursor.linesOf_of_sorted`: they are those for the farthest places, they never decrease, and
  if the places never go back each is the one for its own place.
* `linesOf_cursor`: the answers of the cursor of a text.
-/

namespace CodeTags

/-! ## The line of a place -/

/-- The line is the first that ends behind the place, or the last one if none does. -/
def LineIndex.Owns (index : LineIndex) (line offset : Nat) : Prop :=
  ∃ passed stop later, index.ends = passed ++ stop :: later ∧ line = passed.length + 1 ∧
    (∀ e ∈ passed, e ≤ offset) ∧ (offset < stop ∨ later = [])

namespace LineIndex

variable {index : LineIndex} {line line' offset : Nat}

theorem Owns.le (h : index.Owns line offset) (h' : index.Owns line' offset) : line ≤ line' := by
  obtain ⟨passed, stop, later, hends, rfl, hpassed, -⟩ := h
  obtain ⟨passed', stop', later', hends', rfl, -, hstop'⟩ := h'
  have hsame : passed ++ stop :: later = passed' ++ stop' :: later' := hends.symm.trans hends'
  rcases List.append_eq_append_iff.mp hsame with ⟨mid, rfl, -⟩ | ⟨mid, rfl, hmid⟩
  · rw [List.length_append]
    omega
  · cases mid with
    | nil => simp
    | cons e mid =>
      -- The first line has passed the second, which then ends behind the place and is not the last.
      obtain ⟨rfl, rfl⟩ := List.cons.inj hmid
      have hle : stop' ≤ offset := hpassed stop' (by simp)
      have hmore : mid ++ stop :: later ≠ [] := by simp
      exact absurd (hstop'.resolve_right hmore) (Nat.not_lt.mpr hle)

theorem Owns.unique (h : index.Owns line offset) (h' : index.Owns line' offset) : line = line' :=
  Nat.le_antisymm (h.le h') (h'.le h)

end LineIndex

namespace LineCursor

/-- A cursor passes the lines that end at or before the place, but never the last one. -/
theorem advanceFrom_spec (offset line : Nat) {ahead : List Nat} (h : ahead ≠ []) :
    ∃ passed stop later, ahead = passed ++ stop :: later ∧
      advanceFrom offset line ahead = ⟨line + passed.length, stop :: later⟩ ∧
      (∀ e ∈ passed, e ≤ offset) ∧ (offset < stop ∨ later = []) := by
  fun_induction advanceFrom offset line ahead with
  | case1 line stop next later hstop ih =>
    obtain ⟨passed, stop', later', hahead, hcursor, hpassed, hstop'⟩ := ih (List.cons_ne_nil _ _)
    refine ⟨stop :: passed, stop', later', by rw [hahead, List.cons_append], ?_,
      List.forall_mem_cons.mpr ⟨hstop, hpassed⟩, hstop'⟩
    rw [hcursor, List.length_cons, Nat.add_assoc, Nat.add_comm 1]
  | case2 line stop next later hstop =>
    exact ⟨[], stop, next :: later, rfl, rfl, by simp, .inl (Nat.lt_of_not_le hstop)⟩
  | case3 line ahead hshort =>
    obtain ⟨stop, later, rfl⟩ := List.exists_cons_of_ne_nil h
    cases later with
    | nil => exact ⟨[], stop, [], rfl, rfl, by simp, .inr rfl⟩
    | cons next later => exact absurd rfl (hshort stop next later)

end LineCursor

/-- The cursor of a text comes to the line of a place. -/
theorem LineIndex.owns_lineNumberAt (text : String) (offset : Nat) :
    (ofText text).Owns (lineNumberAt text offset) offset := by
  obtain ⟨passed, stop, later, hends, hcursor, hpassed, hstop⟩ :=
    LineCursor.advanceFrom_spec offset 1 (endsFrom_ne_nil 0 text.toList)
  refine ⟨passed, stop, later, hends, ?_, hpassed, hstop⟩
  rw [← line_advance_cursor, LineCursor.advance, cursor, ofText, hcursor, Nat.add_comm]

theorem LineIndex.owns_iff {text : String} {line offset : Nat} :
    (ofText text).Owns line offset ↔ line = lineNumberAt text offset := by
  constructor
  · exact fun h => h.unique (owns_lineNumberAt text offset)
  · rintro rfl
    exact owns_lineNumberAt text offset

/-! ## Answers -/

namespace LineCursor

/-- What a cursor answers when it is asked about one place after the other. -/
def linesOf (cursor : LineCursor) : List Nat → List Nat
  | [] => []
  | offset :: offsets =>
    let (line, cursor) := cursor.lineOf offset
    line :: cursor.linesOf offsets

theorem linesOf_cons (cursor : LineCursor) (offset : Nat) (offsets : List Nat) :
    cursor.linesOf (offset :: offsets) =
      (cursor.advance offset).line :: (cursor.advance offset).linesOf offsets := rfl

@[simp] theorem length_linesOf (cursor : LineCursor) (offsets : List Nat) :
    (cursor.linesOf offsets).length = offsets.length := by
  induction offsets generalizing cursor with
  | nil => rfl
  | cons offset offsets ih => rw [linesOf_cons, List.length_cons, ih, List.length_cons]

/-- A cursor that has been asked before goes on from the farthest place. -/
theorem exists_getElem?_linesOf (cursor : LineCursor) {offsets : List Nat} {i : Nat}
    (h : i < offsets.length) :
    ∃ farthest, (offsets.take (i + 1)).max? = some farthest ∧
      (cursor.linesOf offsets)[i]? = some (cursor.advance farthest).line := by
  -- What the cursor has been asked is in the cursor, so the induction is for all of them.
  induction offsets generalizing cursor i with
  | nil => exact absurd h (Nat.not_lt_zero i)
  | cons offset offsets ih =>
    rw [linesOf_cons]
    cases i with
    | zero => exact ⟨offset, by simp, rfl⟩
    | succ i =>
      obtain ⟨farthest, hmax, hline⟩ := ih (cursor.advance offset) (Nat.lt_of_succ_lt_succ h)
      refine ⟨max offset farthest, ?_, ?_⟩
      · rw [List.take_succ_cons, List.max?_cons, hmax]
        rfl
      · rw [List.getElem?_cons_succ, hline, advance_advance]

theorem exists_of_mem_linesOf {cursor : LineCursor} {offsets : List Nat} {line : Nat}
    (h : line ∈ cursor.linesOf offsets) : ∃ farthest, line = (cursor.advance farthest).line := by
  obtain ⟨i, hi, rfl⟩ := List.getElem_of_mem h
  rw [length_linesOf] at hi
  obtain ⟨farthest, -, hline⟩ := exists_getElem?_linesOf cursor hi
  exact ⟨farthest, (List.getElem?_eq_some_iff.mp hline).2⟩

theorem line_le_line_advanceFrom (offset line : Nat) (ahead : List Nat) :
    line ≤ (advanceFrom offset line ahead).line := by
  fun_induction advanceFrom offset line ahead with
  | case1 line stop next later hstop ih => exact Nat.le_of_succ_le ih
  | case2 => exact Nat.le_refl _
  | case3 => exact Nat.le_refl _

/-- No answer is before the line where the cursor is. -/
theorem line_le_of_mem_linesOf {cursor : LineCursor} {offsets : List Nat} {line : Nat}
    (h : line ∈ cursor.linesOf offsets) : cursor.line ≤ line := by
  induction offsets generalizing cursor with
  | nil => exact absurd h List.not_mem_nil
  | cons offset offsets ih =>
    have hstep : cursor.line ≤ (cursor.advance offset).line :=
      line_le_line_advanceFrom offset cursor.line cursor.ahead
    rw [linesOf_cons] at h
    rcases List.mem_cons.mp h with rfl | h
    · exact hstep
    · exact Nat.le_trans hstep (ih h)

/-- The answers never decrease. -/
theorem pairwise_linesOf (cursor : LineCursor) (offsets : List Nat) :
    (cursor.linesOf offsets).Pairwise (· ≤ ·) := by
  induction offsets generalizing cursor with
  | nil => exact List.Pairwise.nil
  | cons offset offsets ih =>
    exact List.pairwise_cons.mpr ⟨fun _ h => line_le_of_mem_linesOf h, ih _⟩

/-- Where the places never go back, what was asked before makes no difference. -/
theorem linesOf_of_sorted (cursor : LineCursor) {offsets : List Nat}
    (h : offsets.Pairwise (· ≤ ·)) :
    cursor.linesOf offsets = offsets.map fun offset => (cursor.advance offset).line := by
  induction offsets generalizing cursor with
  | nil => rfl
  | cons offset offsets ih =>
    obtain ⟨hbehind, hsorted⟩ := List.pairwise_cons.mp h
    rw [linesOf_cons, ih _ hsorted, List.map_cons]
    refine congrArg _ (List.map_congr_left fun later hlater => ?_)
    rw [advance_advance, Nat.max_eq_right (hbehind later hlater)]

end LineCursor

/-- **The answers of a cursor.** One cursor on a text is asked about places in any order, which may
lie behind the text. It gives one answer to each: one more than the number of line feeds before the
farthest of the places up to this one, which is the line that owns that place. The answers never
decrease, and none is more than one above the number of line feeds of the text. If the places never
go back, each answer is the line that owns its own place, and the one that a cursor gives which has
not been asked before. -/
theorem linesOf_cursor (text : String) (offsets : List Nat) :
    ((LineIndex.ofText text).cursor.linesOf offsets).length = offsets.length ∧
    let index := LineIndex.ofText text
    let answers := index.cursor.linesOf offsets
    (∀ i, i < offsets.length → ∃ farthest, (offsets.take (i + 1)).max? = some farthest ∧
      answers[i]? = some (lineNumberAt text farthest) ∧
      ∀ line, index.Owns line farthest ↔ line = lineNumberAt text farthest) ∧
    answers.Pairwise (· ≤ ·) ∧
    (∀ line ∈ answers, line ≤ text.toList.count '\n' + 1) ∧
    (offsets.Pairwise (· ≤ ·) →
      answers = offsets.map (fun offset => (index.cursor.lineOf offset).1) ∧
      List.Forall₂ (fun offset answer => ∀ line, index.Owns line offset ↔ line = answer)
        offsets answers) := by
  refine ⟨LineCursor.length_linesOf _ _, ?_⟩
  intro index answers
  refine ⟨fun i hi => ?_, LineCursor.pairwise_linesOf _ _, fun line hline => ?_, fun hsorted => ?_⟩
  · obtain ⟨farthest, hmax, hanswer⟩ := LineCursor.exists_getElem?_linesOf index.cursor hi
    rw [line_advance_cursor] at hanswer
    exact ⟨farthest, hmax, hanswer, fun line => LineIndex.owns_iff⟩
  · obtain ⟨farthest, rfl⟩ := LineCursor.exists_of_mem_linesOf hline
    rw [line_advance_cursor]
    exact lineNumberAt_le text farthest
  · have hfresh : answers = offsets.map fun offset => (index.cursor.lineOf offset).1 :=
      LineCursor.linesOf_of_sorted index.cursor hsorted
    refine ⟨hfresh, ?_⟩
    rw [hfresh, List.forall₂_map_right_iff, List.forall₂_same]
    intro offset _ line
    rw [LineIndex.owns_iff, ← line_advance_cursor]
    rfl

/-- The first character has two bytes, the second line has none but its line feed, and the places 6
and 99 are behind the text. -/
theorem linesOf_cursor_of_blank_line :
    let index := LineIndex.ofText "é\n\nb\n"
    let offsets := [0, 1, 2, 3, 4, 5, 6, 99]
    offsets.Pairwise (· ≤ ·) ∧ index.cursor.linesOf offsets = [1, 1, 1, 2, 3, 3, 4, 4] ∧
      ∀ line, index.Owns line 3 ↔ line = 2 := by
  intro index offsets
  have hsorted : offsets.Pairwise (· ≤ ·) := by decide
  obtain ⟨-, -, -, -, hlines⟩ := linesOf_cursor "é\n\nb\n" offsets
  obtain ⟨hfresh, howns⟩ := hlines hsorted
  have hanswers : index.cursor.linesOf offsets = [1, 1, 1, 2, 3, 3, 4, 4] :=
    hfresh.trans (by decide)
  rw [hanswers] at howns
  obtain ⟨-, hline⟩ := List.forall₂_iff_get.mp howns
  exact ⟨hsorted, hanswers, hline 3 (by decide) (by decide)⟩

/-- A place before the farthest one changes nothing. -/
example : (LineIndex.ofText "é\n\nb\n").cursor.linesOf [4, 0, 99, 2] = [3, 3, 4, 4] := by decide

end CodeTags
