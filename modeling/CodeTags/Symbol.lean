import CodeTags.Text.Trim

/-!
# Symbols

The text of a name in a source becomes a symbol: its blanks go, and on request the marks around it.

* `isSymbolMark`: the marks that can go, ASCII punctuation without `-`, `_` and `.`.
* `symbolOf?`: the symbol of a name, if anything is left of it.
-/

namespace CodeTags

/-- ASCII punctuation. -/
def isAsciiPunctuation (c : Char) : Bool :=
  CodeRanges.has [(0x21, 0x2F), (0x3A, 0x40), (0x5B, 0x60), (0x7B, 0x7E)] c

/-- ASCII punctuation that is no part of an identifier. -/
def isSymbolMark (c : Char) : Bool :=
  isAsciiPunctuation c && c != '-' && c != '_' && c != '.'

/-- The symbol of a name: without blanks and, if `strip`, without marks at both ends. -/
def symbolOf? (strip : Bool) (name : String) : Option String :=
  let bare := name.toList.filter (!isBlank ·)
  let core := if strip then trim isSymbolMark bare else bare
  if core = [] then none else some (String.ofList core)

end CodeTags
