import CodeTags.Text.LetterCase

/-!
# Lower case

The full mapping of a text to lower case.

* `lowerChar`: one character; only the dotted capital I becomes two.
* `endsWord`: whether a sigma stands at the end of a word, where its small form is another one.
* `lowercase`: the whole text.
-/

namespace CodeTags

/-- The small form of one character, whatever stands around it. -/
def lowerChar (c : Char) : List Char :=
  if c = 'İ' then ['i', '\u0307']
  else
    match lowerMappings.find? fun m =>
        m.1 ≤ c.toNat && c.toNat ≤ m.2.1 && (c.toNat - m.1) % m.2.2.1 == 0 with
    | some m => [Char.ofNat (c.toNat + m.2.2.2).toNat]
    | none => [c]

/-- After characters that case ignores, the first one is cased. -/
def meetsCased (cs : List Char) : Bool :=
  (cs.dropWhile isCaseIgnorable).head?.any isCased

/-- A letter stands before this place and none after it; `before` is read backwards. -/
def endsWord (before after : List Char) : Bool :=
  meetsCased before && !meetsCased after

/-- The small form of `c` between `before`, read backwards, and `after`. -/
def lowerIn (before : List Char) (c : Char) (after : List Char) : List Char :=
  if c = 'Σ' then [if endsWord before after then 'ς' else 'σ'] else lowerChar c

/-- The small form of a text that follows `before`, read backwards. -/
def lowerFrom (before : List Char) : List Char → List Char
  | [] => []
  | c :: cs => lowerIn before c cs ++ lowerFrom (c :: before) cs

/-- The text in lower case. -/
def lowercase (s : String) : String := String.ofList (lowerFrom [] s.toList)

end CodeTags
