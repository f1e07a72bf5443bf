import CodeTags.TagSet
import CodeTags.Text.Hex

/-!
# JSON lines

A listing of tags with one JSON object on each line.

* `escapeChar`, `quote`: a text as a JSON string. Only the quotation mark, the backslash and the
  control characters below the space are escaped.
* `Tag.json`: the fields of a tag in the order type, symbol, line, path, image, without blanks.
* `TagSet.jsonLines`: a line for each tag, and nothing at the end.
-/

namespace CodeTags

namespace Json

/-- A character inside a JSON string. -/
def escapeChar (c : Char) : List Char :=
  match c with
  | '\x22' => ['\\', '\x22']
  | '\\' => ['\\', '\\']
  | '\x08' => ['\\', 'b']
  | '\x0c' => ['\\', 'f']
  | '\n' => ['\\', 'n']
  | '\r' => ['\\', 'r']
  | '\t' => ['\\', 't']
  | c =>
    if c.toNat < 0x20 then ['\\', 'u', '0', '0'] ++ hexByte c.toNat else [c]

/-- A text as a JSON string. -/
def quote (s : String) : String :=
  "\"" ++ String.ofList (s.toList.flatMap escapeChar) ++ "\""

/-- A field of a JSON object; `value` is JSON text. -/
def field (name value : String) : String := quote name ++ ":" ++ value

end Json

/-- The tag as a JSON object. -/
def Tag.json (t : Tag) : String :=
  "\x7b" ++ Json.field "type" (Json.quote (String.ofList [t.kind.letter]))
    ++ "," ++ Json.field "symbol" (Json.quote t.symbol)
    ++ "," ++ Json.field "line" (Nat.repr t.line)
    ++ "," ++ Json.field "path" (Json.quote t.path)
    ++ "," ++ Json.field "image" (Json.quote t.image) ++ "\x7d"

/-- A line with a JSON object for each tag. -/
def TagSet.jsonLines (s : TagSet) : String :=
  String.join (s.toList.map fun t => t.json ++ "\n")

end CodeTags
