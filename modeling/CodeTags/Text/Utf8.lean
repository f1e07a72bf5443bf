/-!
# UTF-8

Text as bytes and back.

* `encode`: the bytes of a text.
* `decode`: reads any bytes. Each longest piece that begins a character and cannot go on becomes
  one U+FFFD, and so does each byte that begins none.
* `decode?`: reads exactly the bytes that `encode` writes.
-/

namespace CodeTags.Utf8

/-! ## Writing -/

/-- The bytes of one character. -/
def encodeChar (c : Char) : List UInt8 :=
  let n := c.toNat
  if n < 0x80 then [UInt8.ofNat n]
  else if n < 0x800 then [UInt8.ofNat (0xC0 + n / 64), UInt8.ofNat (0x80 + n % 64)]
  else if n < 0x10000 then
    [UInt8.ofNat (0xE0 + n / 4096), UInt8.ofNat (0x80 + n / 64 % 64), UInt8.ofNat (0x80 + n % 64)]
  else
    [UInt8.ofNat (0xF0 + n / 262144), UInt8.ofNat (0x80 + n / 4096 % 64),
      UInt8.ofNat (0x80 + n / 64 % 64), UInt8.ofNat (0x80 + n % 64)]

/-- The bytes of a text. -/
def encode (cs : List Char) : List UInt8 := cs.flatMap encodeChar

/-! ## Reading -/

/-- Stands for bytes that are no character. -/
def replacement : Char := '\uFFFD'

/-- A character of which some bytes have been read: the value of its bits so far, the number of
bytes that it still needs, and the least and the greatest value of the next one. -/
structure Begun where
  value : Nat
  missing : Nat
  low : Nat
  high : Nat
deriving DecidableEq, Repr

/-- Reads the first byte of a character. The bounds on the second byte leave out long forms,
surrogates and values past the last code point. -/
def start (b : Nat) : List Char × Option Begun :=
  if b < 0x80 then ([Char.ofNat b], none)
  else if b < 0xC2 then ([replacement], none)
  else if b < 0xE0 then ([], some ⟨b - 0xC0, 1, 0x80, 0xBF⟩)
  else if b < 0xF0 then
    ([], some ⟨b - 0xE0, 2, if b = 0xE0 then 0xA0 else 0x80, if b = 0xED then 0x9F else 0xBF⟩)
  else if b < 0xF5 then
    ([], some ⟨b - 0xF0, 3, if b = 0xF0 then 0x90 else 0x80, if b = 0xF4 then 0x8F else 0xBF⟩)
  else ([replacement], none)

/-- Reads one more byte of a character, if it can be one. -/
def Begun.next? (p : Begun) (b : Nat) : Option (List Char × Option Begun) :=
  if p.low ≤ b ∧ b ≤ p.high then
    let value := p.value * 64 + (b - 0x80)
    some (if p.missing ≤ 1 then ([Char.ofNat value], none)
      else ([], some ⟨value, p.missing - 1, 0x80, 0xBF⟩))
  else none

/-- Reads one byte: the characters that are then complete, and the one that is not. A byte that
cannot go on the character begun is read again as a first byte. -/
def feed : Option Begun → UInt8 → List Char × Option Begun
  | none, b => start b.toNat
  | some p, b =>
    match p.next? b.toNat with
    | some r => r
    | none => (replacement :: (start b.toNat).1, (start b.toNat).2)

/-- Reads the bytes that follow a character begun. -/
def decodeFrom : Option Begun → List UInt8 → List Char
  | none, [] => []
  | some _, [] => [replacement]
  | s, b :: bs => (feed s b).1 ++ decodeFrom (feed s b).2 bs

/-- The text of any bytes. -/
def decode (bs : List UInt8) : List Char := decodeFrom none bs

/-- The text of bytes that are the encoding of one. -/
def decode? (bs : List UInt8) : Option (List Char) :=
  if encode (decode bs) = bs then some (decode bs) else none

theorem encode_of_decode? {bs : List UInt8} {cs : List Char} (h : decode? bs = some cs) :
    encode cs = bs := by
  unfold decode? at h
  split at h
  · next he => rw [← Option.some.inj h]; exact he
  · exact absurd h (by simp)

end CodeTags.Utf8
