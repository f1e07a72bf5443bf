/-!
# Numbers to base 16

* `hexDigit`: a single digit.
* `hexByte`: the two digits of a number below 256.
-/

namespace CodeTags

/-- A digit of a number below 16 in small letters. -/
def hexDigit (n : Nat) : Char :=
  if n < 10 then Char.ofNat ('0'.toNat + n) else Char.ofNat ('a'.toNat + (n - 10))

/-- A number below 256 in two digits. -/
def hexByte (n : Nat) : List Char := [hexDigit (n / 16), hexDigit (n % 16)]

end CodeTags
