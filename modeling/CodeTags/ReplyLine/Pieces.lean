import CodeTags.ReplyLine

/-!
# Lines of a reply as a pattern

What `findReport?` finds word by word is also the first match of a pattern.

* `replyPieces`: the pattern of the lines that report on one path.
* `matchReport?`: its first match.
-/

namespace CodeTags

/-- A symbol, a number, the path and the rest of the line, with blanks between them. -/
def replyPieces (path : List Char) : List PatternPiece :=
  [.run (!isBlank ·), .run isBlank, .run isDecimalDigit, .run isBlank, .exactly path,
   .run isBlank, .lineRest]

/-- The report in the first match. -/
def matchReport? (path cs : List Char) : Option Report :=
  match findFirst? (replyPieces path) cs with
  | some [symbol, _, digits, _, _, _, image] => some ⟨symbol, digits, image⟩
  | _ => none

end CodeTags
