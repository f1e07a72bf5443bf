import CodeTags.Text.Hex

/-!
# Text in a log

Characters that a terminal takes for commands are written as escapes in a log.

* `isTerminalControl`: these characters.
* `logText`: a text as it stands in a log. Tabs and ends of lines stay as they are.
-/

namespace CodeTags

/-- The character stands for a bell, a backspace, a form feed, an escape or a deletion, or is one of
the control characters above the ASCII range. -/
def isTerminalControl (c : Char) : Bool :=
  c ∈ ['\x07', '\x08', '\x0c', '\x1b', '\x7f'] || (0x80 ≤ c.toNat && c.toNat ≤ 0x9F)

/-- A character as it stands in a log. Those of the ASCII range have an escape of their own form. -/
def logChar (c : Char) : List Char :=
  if isTerminalControl c then
    if c.toNat < 0x80 then ['\\', 'x'] ++ hexByte c.toNat
    else ['\\', 'u', '\x7b'] ++ hexByte c.toNat ++ ['\x7d']
  else [c]

/-- A text as it stands in a log. -/
def logText (s : String) : String := String.ofList (s.toList.flatMap logChar)

end CodeTags
