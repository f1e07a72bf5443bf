import CodeTags.Batch
import CodeTags.Generator

/-!
# Reading batches

What the other side of the service does with a batch, when it knows the path that it asked for.

* `Tag.ofRecord?`: reads a record. The symbol ends at the first space and the number at the next;
  the path is known, and all that is left is the image.
* `readBatch?`: reads the lines of a batch up to the terminator, and gives the bytes behind it;
  `readBatches?` reads one for each of several paths.
* `TagSet.ofTags`: the set of the tags that were read.
-/

namespace CodeTags

/-- The kind that a letter stands for. -/
def TagKind.ofLetter? : Char → Option TagKind
  | 'R' => some .reference
  | 'D' => some .definition
  | _ => none

/-- The text up to the first space, and the text behind it. -/
def cutAtSpace? (cs : List Char) : Option (List Char × List Char) :=
  match cs.dropWhile (· != ' ') with
  | [] => none
  | _ :: rest => some (cs.takeWhile (· != ' '), rest)

/-- Reads a record of the file at `path`. -/
def Tag.ofRecord? (path : String) : List Char → Option Tag
  | letter :: ' ' :: cs => do
    let kind ← TagKind.ofLetter? letter
    let (symbol, cs) ← cutAtSpace? cs
    let (digits, cs) ← cutAtSpace? cs
    let line ← decimalValue? digits
    let cs ← dropExact? path.toList cs
    let image ← dropExact? [' '] cs
    some ⟨kind, String.ofList symbol, line, path, String.ofList image⟩
  | _ => none

/-- The bytes of the line that ends a batch. -/
def terminatorLine : List UInt8 := Utf8.encode terminator.toList ++ [lineFeed]

/-- Reads the record on a line of bytes, which must be complete. -/
def Tag.ofLine? (path : String) (line : List UInt8) : Option Tag :=
  if line.getLast? = some lineFeed then
    (Utf8.decode? line.dropLast).bind (Tag.ofRecord? path)
  else none

/-- Reads lines up to the one that ends a batch: the tags, and the lines behind it. -/
def readRecords? (path : String) : List (List UInt8) → Option (List Tag × List (List UInt8))
  | [] => none
  | line :: lines =>
    if line = terminatorLine then some ([], lines)
    else
      (Tag.ofLine? path line).bind fun tag =>
        (readRecords? path lines).map fun r => (tag :: r.1, r.2)

/-- Reads the batch for a path at the beginning of some bytes: its tags, and the bytes behind
it. -/
def readBatch? (path : String) (bytes : List UInt8) : Option (List Tag × List UInt8) :=
  (readRecords? path (linesAfter lineFeed bytes)).map fun r => (r.1, r.2.flatten)

/-- Reads a batch for each path, one behind the other. -/
def readBatches? : List String → List UInt8 → Option (List (List Tag) × List UInt8)
  | [], bytes => some ([], bytes)
  | path :: paths, bytes =>
    (readBatch? path bytes).bind fun r =>
      (readBatches? paths r.2).map fun rs => (r.1 :: rs.1, rs.2)

/-- The set of the tags of one file. -/
def TagSet.ofTags (path : String) (tags : List Tag) : TagSet :=
  tags.foldl (fun s t => s.insert t.key t.image) (.empty path)

end CodeTags
