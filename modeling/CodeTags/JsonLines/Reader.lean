import CodeTags.Batch.Reader
import CodeTags.JsonLines

/-!
# Reading JSON lines

* `Json.readText?`: reads a JSON string. Control characters must be escaped.
* `Json.readObject?`: reads an object whose values are strings and natural numbers.
* `Tag.ofJson?`: reads the object of a tag; the order of its fields does not matter.
* `readJsonLines?`: reads a tag on each line.
-/

namespace CodeTags

namespace Json

/-- A value of a field. -/
inductive Scalar where
  | text (s : String)
  | number (n : Nat)
deriving DecidableEq, Repr

/-- The value of a digit of a number to base 16. -/
def hexValue? (c : Char) : Option Nat :=
  if '0' ≤ c ∧ c ≤ '9' then some (c.toNat - '0'.toNat)
  else if 'a' ≤ c ∧ c ≤ 'f' then some (c.toNat - 'a'.toNat + 10)
  else if 'A' ≤ c ∧ c ≤ 'F' then some (c.toNat - 'A'.toNat + 10)
  else none

/-- The character with a code of four digits. -/
def codeChar? (a b c d : Char) : Option Char := do
  let high := (← hexValue? a) * 16 + (← hexValue? b)
  let low := (← hexValue? c) * 16 + (← hexValue? d)
  let n := high * 256 + low
  if 0xD800 ≤ n ∧ n < 0xE000 then none else some (Char.ofNat n)

/-- The character that a letter behind a backslash stands for. -/
def escapedChar? : Char → Option Char
  | '\x22' => some '\x22'
  | '\\' => some '\\'
  | '/' => some '/'
  | 'b' => some '\x08'
  | 'f' => some '\x0c'
  | 'n' => some '\n'
  | 'r' => some '\r'
  | 't' => some '\t'
  | _ => none

/-- Reads a string behind its opening mark: its text, and what is behind the closing mark. -/
def readText? : List Char → Option (List Char × List Char)
  | [] => none
  | '\x22' :: cs => some ([], cs)
  | '\\' :: 'u' :: a :: b :: c :: d :: cs =>
    (codeChar? a b c d).bind fun e => (readText? cs).map fun r => (e :: r.1, r.2)
  | '\\' :: c :: cs =>
    (escapedChar? c).bind fun e => (readText? cs).map fun r => (e :: r.1, r.2)
  | c :: cs =>
    if c.toNat < 0x20 ∨ c = '\\' then none else (readText? cs).map fun r => (c :: r.1, r.2)

/-- Reads a string or a natural number. -/
def readScalar? : List Char → Option (Scalar × List Char)
  | '\x22' :: cs => (readText? cs).map fun r => (.text (String.ofList r.1), r.2)
  | cs => (decimalValue? (cs.takeWhile Char.isDigit)).map fun n =>
      (.number n, cs.dropWhile Char.isDigit)

/-- Reads the name of a field, a colon and the value. -/
def readField? (cs : List Char) : Option ((String × Scalar) × List Char) := do
  let cs ← dropExact? ['\x22'] cs
  let (name, cs) ← readText? cs
  let cs ← dropExact? [':'] cs
  let (value, cs) ← readScalar? cs
  some ((String.ofList name, value), cs)

/-- Reads at most so many fields between commas, and the end of the object. -/
def readFields? : Nat → List Char → Option (List (String × Scalar) × List Char)
  | 0, _ => none
  | n + 1, cs =>
    (readField? cs).bind fun f =>
      match f.2 with
      | ',' :: cs => (readFields? n cs).map fun r => (f.1 :: r.1, r.2)
      | '\x7d' :: cs => some ([f.1], cs)
      | _ => none

/-- Reads an object that is all of a text. -/
def readObject? (cs : List Char) : Option (List (String × Scalar)) := do
  let cs ← dropExact? ['\x7b'] cs
  let (fields, rest) ← readFields? cs.length cs
  if rest = [] then some fields else none

/-- The text of a field. -/
def textOf? (fields : List (String × Scalar)) (name : String) : Option String :=
  match fields.lookup name with
  | some (.text s) => some s
  | _ => none

/-- The number of a field. -/
def numberOf? (fields : List (String × Scalar)) (name : String) : Option Nat :=
  match fields.lookup name with
  | some (.number n) => some n
  | _ => none

end Json

/-- Reads the object of a tag. -/
def Tag.ofJson? (cs : List Char) : Option Tag := do
  let fields ← Json.readObject? cs
  let kind ←
    match (← Json.textOf? fields "type").toList with
    | [letter] => TagKind.ofLetter? letter
    | _ => none
  some ⟨kind, ← Json.textOf? fields "symbol", ← Json.numberOf? fields "line",
    ← Json.textOf? fields "path", ← Json.textOf? fields "image"⟩

/-- Reads a tag on each line. Every line must end with a line feed. -/
def readJsonLines? (text : List Char) : Option (List Tag) :=
  (linesAfter '\n' text).mapM fun line =>
    if line.getLast? = some '\n' then Tag.ofJson? line.dropLast else none

end CodeTags
