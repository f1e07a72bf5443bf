import CodeTags.Text.Split

/-!
# Patterns

Finding a sequence of pieces in a text, with the rules of leftmost matching: the match that begins
first is taken, and among those that begin there each piece in turn is as long as it can be.

* `PatternPiece`: a run of characters of one class, an exact text, or the rest of a line up to the
  end of the text.
* `matchHere?`: the texts of the pieces at the beginning of a text.
* `findFirst?`: the texts of the pieces at the first place where there is a match.
-/

namespace CodeTags

/-- A piece of a pattern. -/
inductive PatternPiece where
  /-- One character of the class or more. -/
  | run (isMember : Char → Bool)
  /-- Exactly this text. -/
  | exactly (text : List Char)
  /-- All that is left, if it holds no line feed. -/
  | lineRest

/-- A longest run of the class after which `rest` succeeds, with what `rest` gives. -/
def longestRun? {α : Type} (isMember : Char → Bool) (rest : List Char → Option α) :
    List Char → Option (List Char × α)
  | [] => none
  | c :: cs =>
    if isMember c then
      match longestRun? isMember rest cs with
      | some (run, a) => some (c :: run, a)
      | none => (rest cs).map fun a => ([c], a)
    else none

/-- The texts of the pieces, one after the other from the beginning of the text. -/
def matchHere? : List PatternPiece → List Char → Option (List (List Char))
  | [], _ => some []
  | .run isMember :: ps, cs =>
    (longestRun? isMember (matchHere? ps) cs).map fun r => r.1 :: r.2
  | .exactly text :: ps, cs =>
    ((dropExact? text cs).bind (matchHere? ps)).map (text :: ·)
  | .lineRest :: ps, cs =>
    if '\n' ∈ cs then none else (matchHere? ps []).map (cs :: ·)

/-- The texts of the pieces at the first place of the text where all of them follow. -/
def findFirst? (ps : List PatternPiece) : List Char → Option (List (List Char))
  | [] => matchHere? ps []
  | c :: cs =>
    match matchHere? ps (c :: cs) with
    | some texts => some texts
    | none => findFirst? ps cs

end CodeTags
