import CodeTags.Proofs.LineIndex
import CodeTags.Proofs.Text.Utf8

/-!
# Line numbers and the texts of lines

* `lineNumberAt`: the number of the line on which a byte stands, by the line feeds before it.
* `LineCursor.advance_advance`: a cursor that goes on in steps goes as far as one that goes at once.
* `line_advance_cursor`: the number that a cursor on the first line gives for a position.
* `lineAt`: the text of a line by its number, by the line feeds around it.
* `isInfix_lineAt`: the line on which a piece of the text begins shows the piece.
-/

namespace CodeTags

/-! ## Numbers -/

/-- One more than the number of line feeds before a byte of a text. -/
def lineNumberAt (text : String) (offset : Nat) : Nat :=
  ((Utf8.encode text.toList).take offset).count lineFeed + 1

theorem lineNumberAt_of_append {text : String} {before behind : List Char}
    (h : text.toList = before ++ behind) :
    lineNumberAt text (byteLength before) = before.count '\n' + 1 := by
  rw [lineNumberAt, h, Utf8.encode_append, List.take_left' (Utf8.length_encode before),
    Utf8.count_lineFeed_encode]

/-- The last line is the one behind the last line feed. -/
theorem lineNumberAt_le (text : String) (offset : Nat) :
    lineNumberAt text offset ≤ text.toList.count '\n' + 1 := by
  have hsub := (List.take_sublist offset (Utf8.encode text.toList)).count_le lineFeed
  rw [Utf8.count_lineFeed_encode] at hsub
  exact Nat.succ_le_succ hsub

namespace LineCursor

theorem advance_advanceFrom (offset offset' line : Nat) (ahead : List Nat) :
    (advanceFrom offset line ahead).advance offset' =
      advanceFrom (max offset offset') line ahead := by
  fun_induction advanceFrom offset line ahead with
  | case1 line stop next later hstop ih =>
    rw [ih, advanceFrom, if_pos (Nat.le_trans hstop (Nat.le_max_left _ _))]
  | case2 line stop next later hstop =>
    -- Only the second step can go past this line, and then it is the farther one.
    by_cases hstop' : stop ≤ offset'
    · rw [Nat.max_eq_right (by omega)]
      rfl
    · rw [advance, advanceFrom, advanceFrom, if_neg hstop', if_neg (by omega)]
  | case3 line ahead hshort =>
    rw [advance, advanceFrom, advanceFrom]
    · exact hshort
    · exact hshort

/-- A cursor only moves forward, so the farthest of several positions counts. -/
theorem advance_advance (cursor : LineCursor) (offset offset' : Nat) :
    (cursor.advance offset).advance offset' = cursor.advance (max offset offset') :=
  advance_advanceFrom offset offset' cursor.line cursor.ahead

/-- From the end of a line a cursor passes as many lines as there are line feeds on its way. -/
theorem line_advanceFrom_endsFrom (offset line pos : Nat) (cs : List Char) :
    (advanceFrom offset line (LineIndex.endsFrom pos cs)).line =
      line + ((Utf8.encode cs).take (offset - pos)).count lineFeed := by
  induction cs generalizing line pos with
  | nil => simp [LineIndex.endsFrom, advanceFrom, Utf8.encode]
  | cons c cs ih =>
    rw [Utf8.encode, List.flatMap_cons, ← Utf8.encode, List.take_append, List.count_append,
      Utf8.length_encodeChar, Nat.sub_sub, LineIndex.endsFrom]
    by_cases hc : c = '\n'
    · subst hc
      have hsize : '\n'.utf8Size = 1 := rfl
      rw [if_pos rfl, hsize]
      obtain ⟨next, later, hends⟩ :=
        List.exists_cons_of_ne_nil (LineIndex.endsFrom_ne_nil (pos + 1) cs)
      rw [hends, advanceFrom]
      by_cases hstop : pos + 1 ≤ offset
      · have hfirst : (Utf8.encodeChar '\n').take (offset - pos) = [lineFeed] :=
          List.take_of_length_le (by rw [Utf8.length_encodeChar]; omega)
        rw [if_pos hstop, ← hends, ih, hfirst, List.count_singleton_self]
        omega
      · have hbefore : offset - pos = 0 := by omega
        have hbefore' : offset - (pos + 1) = 0 := by omega
        rw [if_neg hstop, hbefore, hbefore']
        rfl
    · have hnone : ((Utf8.encodeChar c).take (offset - pos)).count lineFeed = 0 :=
        List.count_eq_zero_of_not_mem fun h =>
          hc (Utf8.lineFeed_mem_encodeChar.mp (List.mem_of_mem_take h))
      rw [if_neg hc, ih, hnone, Nat.zero_add]

end LineCursor

/-- The number of the line of any position. A position behind the text is on its last line. -/
theorem line_advance_cursor (text : String) (offset : Nat) :
    ((LineIndex.ofText text).cursor.advance offset).line = lineNumberAt text offset := by
  have hline := LineCursor.line_advanceFrom_endsFrom offset 1 0 text.toList
  rw [Nat.sub_zero, Nat.add_comm] at hline
  exact hline

/-! ## Texts -/

/-- The text of a line without carriage returns at its end: what stands between two line feeds. -/
def lineAt (text : String) (line : Nat) : String :=
  String.ofList (trimEnd (· == '\r') ((fieldsOf '\n' text.toList).getD (line - 1) []))

/-- A line without its line feed is what stands between two of them. -/
theorem lineContent_getD_linesAfter (cs : List Char) (i : Nat) :
    lineContent ((linesAfter '\n' cs).getD i []) =
      trimEnd (· == '\r') ((fieldsOf '\n' cs).getD i []) := by
  have hbody : ∀ body : List Char, '\n' ∉ body → trimEnd (· == '\n') body = body := by
    intro body hbody
    exact trimEnd_eq_self fun a ha => beq_eq_false_iff_ne.mpr fun h => hbody (h ▸ ha)
  induction cs using lines_induction '\n' generalizing i with
  | nil => cases i <;> rfl
  | last as hmem hne =>
    rw [linesAfter_of_not_mem hmem hne, fieldsOf_of_not_mem hmem]
    cases i with
    | zero => exact congrArg _ (hbody as hmem)
    | succ i => rfl
  | line body rest hmem ih =>
    rw [linesAfter_append_cons hmem, fieldsOf_append_cons hmem]
    cases i with
    | zero =>
      rw [List.getD_cons_zero, List.getD_cons_zero, lineContent,
        trimEnd_concat_of_pos (by decide), hbody body hmem]
    | succ i => exact ih i

theorem lineText_eq_lineAt (text : String) (line : Nat) :
    (LineIndex.ofText text).lineText text line = lineAt text line := by
  rw [LineIndex.lineText_ofText, lineContent_getD_linesAfter, lineAt]

/-- The line on which a piece of the text begins shows the piece, if it is on one line and a
carriage return does not end it. -/
theorem isInfix_lineAt {text : String} {before piece behind : List Char} {c : Char}
    (htext : text.toList = before ++ (piece ++ [c]) ++ behind) (hpiece : '\n' ∉ piece ++ [c])
    (hc : c ≠ '\r') :
    piece ++ [c] <:+: (lineAt text (lineNumberAt text (byteLength before))).toList := by
  obtain ⟨front, hfield⟩ := getElem?_fieldsOf_append '\n' before (piece ++ [c] ++ behind)
  rw [lineNumberAt_of_append (htext.trans (List.append_assoc _ _ _)), lineAt,
    String.toList_ofList, htext, List.append_assoc, Nat.add_sub_cancel,
    List.getD_eq_getElem?_getD, hfield, Option.getD_some]
  have hfront : (piece ++ [c] ++ behind).takeWhile (· ≠ '\n') =
      piece ++ c :: behind.takeWhile (· ≠ '\n') := by
    have hall : ∀ a ∈ piece ++ [c], decide (a ≠ '\n') = true := fun a ha =>
      decide_eq_true fun h => hpiece (h ▸ ha)
    rw [List.takeWhile_append_of_pos hall, List.append_assoc, List.singleton_append]
  have hc' : (c == '\r') = false := beq_eq_false_iff_ne.mpr hc
  rw [hfront, ← List.append_assoc, trimEnd_append_cons (p := (· == '\r')) hc']
  exact ⟨front, trimEnd (· == '\r') (behind.takeWhile (· ≠ '\n')), by simp⟩

end CodeTags
