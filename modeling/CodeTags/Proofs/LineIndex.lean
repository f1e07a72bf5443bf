import CodeTags.LineIndex
import CodeTags.Proofs.Text.Lines

/-!
# The lines of an indexed text

* `slice?_line`: the piece of the text between the ends of two lines is a line.
* `getElem?_endsFrom`: line number `i` ends behind the first `i + 1` lines of the text.
* `lineText_ofText`: the text of a line by its number is that line of the text.
-/

namespace CodeTags

theorem slice?_append (pre mid post : List Char) :
    slice? (pre ++ mid ++ post) (byteLength pre) (byteLength pre + byteLength mid) = some mid := by
  rw [slice?, if_pos (Nat.le_add_right _ _), List.append_assoc, dropBytes?_append,
    Nat.add_sub_cancel_left]
  exact takeBytes?_append mid post

namespace LineIndex

/-- The piece between the end of the lines before a line and its own end is the line. -/
theorem slice?_line (cs : List Char) (i : Nat) :
    slice? cs (byteLength ((linesAfter '\n' cs).take i).flatten)
        (byteLength ((linesAfter '\n' cs).take (i + 1)).flatten) =
      some ((linesAfter '\n' cs).getD i []) := by
  have hline : ((linesAfter '\n' cs).take (i + 1)).flatten =
      ((linesAfter '\n' cs).take i).flatten ++ (linesAfter '\n' cs).getD i [] := by
    rw [List.take_add_one, List.flatten_append, List.getD_eq_getElem?_getD]
    cases (linesAfter '\n' cs)[i]? <;> simp
  have hsplit : cs = ((linesAfter '\n' cs).take i).flatten ++ (linesAfter '\n' cs).getD i [] ++
      ((linesAfter '\n' cs).drop (i + 1)).flatten := by
    rw [← hline, ← List.flatten_append, List.take_append_drop, flatten_linesAfter]
  have hslice := slice?_append ((linesAfter '\n' cs).take i).flatten
    ((linesAfter '\n' cs).getD i []) ((linesAfter '\n' cs).drop (i + 1)).flatten
  rwa [← hsplit, ← byteLength_append, ← hline] at hslice

/-- A character in front of a text belongs to its first line. -/
theorem take_linesAfter_cons {c : Char} (hc : c ≠ '\n') (cs : List Char) (i : Nat) :
    ((linesAfter '\n' (c :: cs)).take (i + 1)).flatten =
      c :: ((linesAfter '\n' cs).take (i + 1)).flatten := by
  rw [linesAfter, if_neg hc]
  cases linesAfter '\n' cs with
  | nil => simp
  | cons l ls => simp

/-- The ends are those of the lines, and behind a last line feed the end of the text again. -/
theorem getElem?_endsFrom (pos : Nat) {cs : List Char} {i : Nat} (h : i ≤ cs.count '\n') :
    (endsFrom pos cs)[i]? =
      some (pos + byteLength ((linesAfter '\n' cs).take (i + 1)).flatten) := by
  induction cs generalizing pos i with
  | nil =>
    obtain rfl : i = 0 := by simpa using h
    rfl
  | cons c cs ih =>
    by_cases hc : c = '\n'
    · subst hc
      rw [endsFrom, if_pos rfl, linesAfter, if_pos rfl]
      cases i with
      | zero => rfl
      | succ i =>
        have hi : i ≤ cs.count '\n' := by simpa using h
        rw [List.getElem?_cons_succ, ih _ hi, List.take_succ_cons, List.flatten_cons,
          List.singleton_append, byteLength_cons, Nat.add_assoc]
    · have hi : i ≤ cs.count '\n' := by simpa [hc] using h
      rw [endsFrom, if_neg hc, ih _ hi, take_linesAfter_cons hc, byteLength_cons, Nat.add_assoc]

/-- The beginning of a line is the end of the lines before it. -/
theorem lineStart_ofText (text : String) {i : Nat} (h : i ≤ text.toList.count '\n') :
    (ofText text).lineStart (i + 1) =
      byteLength ((linesAfter '\n' text.toList).take i).flatten := by
  cases i with
  | zero => rfl
  | succ i =>
    have hend := getElem?_endsFrom 0 (Nat.le_of_succ_le h)
    rw [Nat.zero_add] at hend
    rw [lineStart, if_neg (by omega), ofText, show i + 1 + 1 - 2 = i by omega,
      List.getD_eq_getElem?_getD, hend, Option.getD_some]

/-- The text of a line, by its number, is the content of that line of the text. Line 0 stands for
line 1, and a line that is not there is empty. -/
theorem lineText_ofText (text : String) (n : Nat) :
    (ofText text).lineText text n =
      String.ofList (lineContent ((linesAfter '\n' text.toList).getD (n - 1) [])) := by
  have hstart : (ofText text).lineStart n = (ofText text).lineStart (n - 1 + 1) := by
    cases n <;> rfl
  rw [lineText, hstart]
  by_cases h : n - 1 ≤ text.toList.count '\n'
  · have hstop : (ofText text).ends[n - 1]? = _ := getElem?_endsFrom 0 h
    rw [hstop, lineStart_ofText text h, Nat.zero_add]
    dsimp only
    rw [slice?_line, Option.getD_some]
  · have hends : (ofText text).ends[n - 1]? = none := by
      rw [List.getElem?_eq_none_iff, ofText, length_endsFrom]
      omega
    have hlines : (linesAfter '\n' text.toList).length ≤ n - 1 := by
      rw [length_linesAfter]
      split <;> omega
    rw [hends, List.getD_eq_getElem?_getD, List.getElem?_eq_none hlines]
    rfl

end LineIndex

end CodeTags
