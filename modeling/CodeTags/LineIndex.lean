import CodeTags.Text.Slice
import CodeTags.Text.Trim

/-!
# Lines of a text by byte position

* `LineIndex.ofText`: where each line of a text ends.
* `LineIndex.lineText`: the text of a line by its number, which begins at 1.
* `LineCursor.lineOf`: the line of a byte position. A cursor only moves forward, so it answers for
  the farthest position that it was asked about.
-/

namespace CodeTags

/-- The byte positions at which the lines of a text end: after each line feed, and the end. -/
structure LineIndex where
  ends : List Nat
deriving DecidableEq, Repr

namespace LineIndex

/-- The ends of the lines of a text that begins at byte `pos`. -/
def endsFrom (pos : Nat) : List Char → List Nat
  | [] => [pos]
  | c :: cs =>
    if c = '\n' then (pos + c.utf8Size) :: endsFrom (pos + c.utf8Size) cs
    else endsFrom (pos + c.utf8Size) cs

/-- The index of a text. -/
def ofText (text : String) : LineIndex := ⟨endsFrom 0 text.toList⟩

/-- The byte position at which a line begins. Line 0 stands for line 1. -/
def lineStart (index : LineIndex) (line : Nat) : Nat :=
  if line ≤ 1 then 0 else index.ends.getD (line - 2) 0

/-- The bytes of `text` that make up the line of the indexed text, without the end of the line.
The text is empty if there is no such line, or no such piece of `text`. -/
def lineText (index : LineIndex) (text : String) (line : Nat) : String :=
  match index.ends[line - 1]? with
  | none => ""
  | some stop =>
    String.ofList (lineContent ((slice? text.toList (index.lineStart line) stop).getD []))

theorem endsFrom_ne_nil (pos : Nat) (cs : List Char) : endsFrom pos cs ≠ [] := by
  induction cs generalizing pos with
  | nil => simp [endsFrom]
  | cons c cs ih => rw [endsFrom]; split <;> simp [ih]

/-- There is one line more than there are line feeds. -/
theorem length_endsFrom (pos : Nat) (cs : List Char) :
    (endsFrom pos cs).length = cs.count '\n' + 1 := by
  induction cs generalizing pos with
  | nil => rfl
  | cons c cs ih =>
    rw [endsFrom]
    split
    · next h => simp [ih, h]
    · next h => simp [ih, h]

end LineIndex

/-- A place in an index: the number of the line reached, and where it and the later ones end. -/
structure LineCursor where
  line : Nat
  ahead : List Nat
deriving DecidableEq, Repr

/-- A cursor on the first line. -/
def LineIndex.cursor (index : LineIndex) : LineCursor := ⟨1, index.ends⟩

/-- Goes on from line to line while another one follows and the line ends at or before
`offset`. -/
def LineCursor.advanceFrom (offset : Nat) : Nat → List Nat → LineCursor
  | line, stop :: next :: later =>
    if stop ≤ offset then advanceFrom offset (line + 1) (next :: later)
    else ⟨line, stop :: next :: later⟩
  | line, ahead => ⟨line, ahead⟩

/-- The cursor on the line of `offset`, unless it is past that line already. The last line owns
every position behind it. -/
def LineCursor.advance (cursor : LineCursor) (offset : Nat) : LineCursor :=
  advanceFrom offset cursor.line cursor.ahead

/-- The line of a byte position, and the cursor moved there. -/
def LineCursor.lineOf (cursor : LineCursor) (offset : Nat) : Nat × LineCursor :=
  ((cursor.advance offset).line, cursor.advance offset)

end CodeTags
