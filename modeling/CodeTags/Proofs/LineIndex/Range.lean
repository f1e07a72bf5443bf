import CodeTags.Proofs.LineCursor
import CodeTags.Proofs.TokenStream

/-!
# Byte ranges of lines

The index of a text stands for a range of bytes for each of its lines. The range can be cut out of
the text itself, where it is the line, and out of any other text, where it need not be anything.

* `IsBoundary`: a place between two characters, or at an end; `exists_isPieceAt_iff`: a range can be
  cut out if it begins and ends at such places.
* `LineIndex.lineEnd`: the place at which a line ends.
* `LineIndex.lineText_of_le`, `LineIndex.lineText_of_lt`: what is cut out for a line that the text
  has, and for one that it does not have.
* `LineIndex.lineText_of_range`: the text of a line by its number, in any text.
-/

namespace CodeTags

/-! ## Boundaries -/

/-- No character of the text has bytes on both sides of byte `n`, and the text is that long. -/
def IsBoundary (text : List Char) (n : Nat) : Prop :=
  ∃ before behind, text = before ++ behind ∧ byteLength before = n

theorem eq_nil_of_byteLength {cs : List Char} (h : byteLength cs = 0) : cs = [] := by
  cases cs with
  | nil => rfl
  | cons c cs =>
    have hc := c.utf8Size_pos
    rw [byteLength_cons] at h
    omega

/-- The bytes in a range are characters if the range begins and ends between characters. -/
theorem exists_isPieceAt_iff {text : List Char} {start stop : Nat} :
    (∃ piece, IsPieceAt text start stop piece) ↔
      start ≤ stop ∧ IsBoundary text start ∧ IsBoundary text stop := by
  constructor
  · rintro ⟨piece, hpiece⟩
    have hle := hpiece.start_le_stop
    obtain ⟨before, behind, rfl, hstart, hstop⟩ := hpiece
    refine ⟨hle, ⟨before, piece ++ behind, by rw [List.append_assoc], hstart⟩,
      before ++ piece, behind, rfl, ?_⟩
    rw [byteLength_append, hstop]
  · rintro ⟨hle, ⟨before, behind, rfl, rfl⟩, before', behind', htext, rfl⟩
    rcases List.append_eq_append_iff.mp htext with ⟨piece, rfl, rfl⟩ | ⟨piece, rfl, rfl⟩
    · exact ⟨piece, before, behind', by rw [List.append_assoc], rfl, by rw [byteLength_append]⟩
    · -- The range ends before it begins, so it is empty.
      rw [byteLength_append] at hle
      have hempty : byteLength piece = 0 := by omega
      obtain rfl := eq_nil_of_byteLength hempty
      exact ⟨[], before', behind, by simp, by simp, by simp⟩

namespace LineIndex

/-! ## Ranges -/

/-- The place at which line `n` of a text ends, with its line feed; line 0 ends where the text
begins. -/
def lineEnd (text : String) (n : Nat) : Nat :=
  byteLength ((linesAfter '\n' text.toList).take n).flatten

variable {text : String} {n : Nat}

/-- The table has the end of each line that the text has. -/
theorem getElem?_ends (h : n ≤ text.toList.count '\n' + 1) :
    (ofText text).ends[n - 1]? = some (lineEnd text (n - 1 + 1)) := by
  have hle : n - 1 ≤ text.toList.count '\n' := by omega
  have hend := getElem?_endsFrom 0 hle
  rwa [Nat.zero_add] at hend

/-- A line begins where the one before it ends. -/
theorem lineStart_eq_lineEnd (h : n ≤ text.toList.count '\n' + 1) :
    (ofText text).lineStart n = lineEnd text (n - 1) := by
  have hle : n - 1 ≤ text.toList.count '\n' := by omega
  have hstart := lineStart_ofText text hle
  rw [lineEnd, ← hstart]
  cases n <;> rfl

/-- For a line that the indexed text has, the range is cut out of the other text. -/
theorem lineText_of_le (h : n ≤ text.toList.count '\n' + 1) (other : String) :
    (ofText text).lineText other n =
      String.ofList (lineContent
        ((slice? other.toList (lineEnd text (n - 1)) (lineEnd text (n - 1 + 1))).getD [])) := by
  unfold lineText
  rw [getElem?_ends h, lineStart_eq_lineEnd h]

/-- For any other line there is no text. -/
theorem lineText_of_lt (h : text.toList.count '\n' + 1 < n) (other : String) :
    (ofText text).lineText other n = "" := by
  have hnone : (ofText text).ends[n - 1]? = none := by
    rw [List.getElem?_eq_none_iff, ofText, length_endsFrom]
    omega
  unfold lineText
  rw [hnone]

/-- The range of a line is a piece of its own text: the line. -/
theorem isPieceAt_line (text : String) (n : Nat) :
    IsPieceAt text.toList (lineEnd text n) (lineEnd text (n + 1))
      ((linesAfter '\n' text.toList).getD n []) :=
  slice?_eq_some_iff.mp (slice?_line text.toList n)

theorem lineText_of_isPieceAt (h : n ≤ text.toList.count '\n' + 1) {other : String}
    {piece : List Char}
    (hpiece : IsPieceAt other.toList (lineEnd text (n - 1)) (lineEnd text (n - 1 + 1)) piece) :
    (ofText text).lineText other n = String.ofList (lineContent piece) := by
  rw [lineText_of_le h, slice?_eq_some_iff.mpr hpiece, Option.getD_some]

theorem lineText_of_not_isBoundary (h : n ≤ text.toList.count '\n' + 1) {other : String}
    (hother : ¬(IsBoundary other.toList (lineEnd text (n - 1)) ∧
      IsBoundary other.toList (lineEnd text (n - 1 + 1)))) :
    (ofText text).lineText other n = "" := by
  have hnone : slice? other.toList (lineEnd text (n - 1)) (lineEnd text (n - 1 + 1)) = none := by
    rw [Option.eq_none_iff_forall_ne_some]
    intro piece hpiece
    exact hother (exists_isPieceAt_iff.mp ⟨piece, slice?_eq_some_iff.mp hpiece⟩).2
  rw [lineText_of_le h, hnone]
  rfl

/-- **Lines by number.** The index of a text has an end for line `n` if the text has the line, one
more than there are line feeds; line 0 stands for line 1. The ends of line `n` and of the line
before it are then in the table, and they are the range of the line. In the text itself the range
can be cut out, and is what stands between two line feeds, without the carriage returns at its end.
In any other text the range is cut out as well, without line feeds and then carriage returns at its
end, or nothing is if it does not begin and end between characters of that text. A line that the
indexed text does not have is empty in every text. -/
theorem lineText_of_range (text : String) (n : Nat) :
    (text.toList.count '\n' + 1 < n → ∀ other, (ofText text).lineText other n = "") ∧
    (n ≤ text.toList.count '\n' + 1 →
      let index := ofText text
      let start := lineEnd text (n - 1)
      let stop := lineEnd text (n - 1 + 1)
      index.ends[n - 1]? = some stop ∧ (2 ≤ n → index.ends[n - 2]? = some start) ∧
      index.lineStart n = start ∧
      (∃ line, (fieldsOf '\n' text.toList)[n - 1]? = some line ∧
        index.lineText text n = String.ofList (trimEnd (· == '\r') line)) ∧
      (∃ piece, IsPieceAt text.toList start stop piece) ∧
      ∀ other : String,
        (∀ piece, IsPieceAt other.toList start stop piece → index.lineText other n =
          String.ofList (trimEnd (· == '\r') (trimEnd (· == '\n') piece))) ∧
        (¬(IsBoundary other.toList start ∧ IsBoundary other.toList stop) →
          index.lineText other n = "")) := by
  refine ⟨fun h other => lineText_of_lt h other, fun h => ?_⟩
  intro index start stop
  refine ⟨getElem?_ends h, fun h2 => ?_, lineStart_eq_lineEnd h, ?_,
    ⟨_, isPieceAt_line text (n - 1)⟩, fun other =>
      ⟨fun piece hpiece => lineText_of_isPieceAt h hpiece, lineText_of_not_isBoundary h⟩⟩
  · have hle : n - 1 ≤ text.toList.count '\n' + 1 := by omega
    have hbefore := getElem?_ends hle
    rwa [show n - 1 - 1 = n - 2 by omega, show n - 2 + 1 = n - 1 by omega] at hbefore
  · have hlength : n - 1 < (fieldsOf '\n' text.toList).length := by
      rw [length_fieldsOf]
      omega
    refine ⟨_, List.getElem?_eq_getElem hlength, ?_⟩
    rw [lineText_eq_lineAt, lineAt, List.getD_eq_getElem?_getD, List.getElem?_eq_getElem hlength,
      Option.getD_some]

/-- The second line is the three bytes behind the first line feed. In the first of the other texts
they are a character and a line feed, in the second they begin inside a character. -/
theorem lineText_of_range_of_second_line :
    let index := ofText "a\nb\r\n"
    index.ends[1]? = some 5 ∧ index.lineText "a\nb\r\n" 2 = "b" ∧
      IsPieceAt "xyé\nz".toList 2 5 ['é', '\n'] ∧ index.lineText "xyé\nz" 2 = "é" ∧
      ¬IsBoundary "xéyz".toList 2 ∧ index.lineText "xéyz" 2 = "" ∧
      ∀ other, index.lineText other 4 = "" := by
  intro index
  have hcount : 2 ≤ "a\nb\r\n".toList.count '\n' + 1 := by decide
  have hpiece : IsPieceAt "xyé\nz".toList 2 5 ['é', '\n'] :=
    ⟨['x', 'y'], ['z'], by decide, by decide, by decide⟩
  have hinside : ¬IsBoundary "xéyz".toList 2 := by
    rintro ⟨before, behind, htext, hlength⟩
    have hdrop := dropBytes?_append before behind
    have hnone : dropBytes? 2 "xéyz".toList = none := by decide
    rw [hlength, ← htext, hnone] at hdrop
    cases hdrop
  obtain ⟨hend, -, -, ⟨line, hline, htext⟩, -, hother⟩ :=
    (lineText_of_range "a\nb\r\n" 2).2 hcount
  obtain rfl : ['b', '\r'] = line := Option.some.inj (.trans (by decide) hline)
  exact ⟨hend, htext, hpiece, (hother "xyé\nz").1 _ hpiece, hinside,
    (hother "xéyz").2 fun h => hinside h.1,
    (lineText_of_range "a\nb\r\n" 4).1 (by decide)⟩

end LineIndex

end CodeTags
