import CodeTags.Pattern
import CodeTags.TagSet
import CodeTags.Text.DecimalDigit

/-!
# Lines of a reply

A line that reports a definition holds the symbol, the line number, the path and the image, with
blanks between them.

* `imageOf?`: the image behind the path.
* `reportAfter?`: the number and the image behind a word, if it is the symbol of a report.
* `findReport?`: the report of the first word that is a symbol of one.
* `Definition.parse?`: reads a line. Only the first report counts: if its number is none, or not in
  range, the line reports nothing.
-/

namespace CodeTags

/-- What a line says before its number is looked at. -/
structure Report where
  symbol : List Char
  digits : List Char
  image : List Char
deriving DecidableEq, Repr

/-- The image behind the path: blanks, and then the rest of the text on a single line. -/
def imageOf? (cs : List Char) : Option (List Char) :=
  let image := cs.dropWhile isBlank
  if cs.head?.any isBlank ∧ '\n' ∉ image then some image else none

/-- The number and the image behind a word. As many blanks as possible are in front of the path, so
that it is found even if it begins with blanks itself. -/
def reportAfter? (path : List Char) (cs : List Char) : Option (List Char × List Char) :=
  let number := cs.dropWhile isBlank
  let digits := number.takeWhile isDecimalDigit
  if digits = [] then none
  else
    (longestRun? isBlank (fun cs => (dropExact? path cs).bind imageOf?)
      (number.dropWhile isDecimalDigit)).map fun r => (digits, r.2)

/-- The first report in a text that follows a blank or begins a line, or goes on with a word if
`inWord`. -/
def findReport? (path : List Char) (inWord : Bool) : List Char → Option Report
  | [] => none
  | c :: cs =>
    if isBlank c then findReport? path false cs
    else if inWord then findReport? path true cs
    else
      match reportAfter? path (cs.dropWhile (!isBlank ·)) with
      | some (digits, image) => some ⟨c :: cs.takeWhile (!isBlank ·), digits, image⟩
      | none => findReport? path true cs

/-- Line numbers have 64 bits. -/
def lineBound : Nat := UInt64.size

/-- A definition that a line reports. -/
structure Definition where
  symbol : String
  line : Nat
  image : String
deriving DecidableEq, Repr

/-- The number of a line in the digits 0 to 9, from 1 up to the bound. -/
def lineNumber? (digits : List Char) : Option Nat :=
  (decimalValue? digits).filter fun n => 0 < n && n < lineBound

/-- The definition of a report, if its number is that of a line. -/
def Report.definition? (r : Report) : Option Definition :=
  (lineNumber? r.digits).map fun n => ⟨String.ofList r.symbol, n, String.ofList r.image⟩

/-- Reads a line that reports a definition in the file at `path`. -/
def Definition.parse? (path line : String) : Option Definition :=
  (findReport? path.toList false line.toList).bind (·.definition?)

/-- Records a definition. -/
def TagSet.insertDefinition (s : TagSet) (d : Definition) : TagSet :=
  s.insert ⟨d.line, d.symbol, .definition⟩ d.image

end CodeTags
