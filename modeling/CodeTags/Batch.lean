import CodeTags.TagSet

/-!
# Batches

The answer to one request as lines of text: a record for each tag and a line that ends the batch.

* `terminator`: the text of the line that ends a batch.
* `Tag.record`: kind, symbol, line, path and image with one space after each of the first four.
* `TagSet.batch`: all records of a set in their order, and the terminator.
-/

namespace CodeTags

/-- The text of the line that ends a batch. -/
def terminator : String := "###terminator###"

/-- The record of a tag, without the end of its line. -/
def Tag.record (t : Tag) : String :=
  String.ofList [t.kind.letter] ++ " " ++ t.symbol ++ " " ++ Nat.repr t.line ++ " " ++ t.path
    ++ " " ++ t.image

/-- The lines of the tags and the line that ends the batch. -/
def TagSet.batch (s : TagSet) : String :=
  String.join (s.toList.map fun t => t.record ++ "\n") ++ terminator ++ "\n"

end CodeTags
