import CodeTags.Proofs.Text.Utf8

/-!
# Bytes that are no text

What becomes of bytes that are the encoding of no text, said without the decoder: from the front,
whole characters are read as they are, the longest piece that begins a character and cannot go on
as one is replaced, and so is a byte that begins none.

* `Begins`: a piece of bytes begins a character. `FirstPiece`, `Reads`: what is read.
* `Begun.Follows`: what the decoder knows of a character that it has begun to read: which characters
  it can still be, and which bytes are missing.
* `start_cases`, `Begun.Follows.next?_cases`: what one byte more says.
* `reads_decode`, `Reads.unique`: what the decoder gives is read in this way, and nothing else is.
* `reads_iff`: so the decoder is described by what is read.
-/

namespace CodeTags.Utf8

/-! ## What is read -/

/-- The bytes are the first ones of some character, or all of them. -/
def Begins (part : List UInt8) : Prop := ∃ c, part <+: encodeChar c

/-- The first bytes to be read in front of others, and the character that is read for them. -/
inductive FirstPiece : List UInt8 → List UInt8 → Char → Prop
  | whole (c : Char) (bs : List UInt8) : FirstPiece (encodeChar c) bs c
  | part {part bs : List UInt8} (ne_nil : part ≠ []) (begins : Begins part)
      (not_whole : ∀ c, encodeChar c ≠ part)
      (longest : ∀ b ∈ bs.head?, ¬Begins (part ++ [b])) : FirstPiece part bs replacement
  | stray {b : UInt8} (not_begins : ¬Begins [b]) (bs : List UInt8) : FirstPiece [b] bs replacement

/-- The text that is read from bytes, piece by piece. -/
inductive Reads : List UInt8 → List Char → Prop
  | nil : Reads [] []
  | cons {piece bs : List UInt8} {c : Char} {cs : List Char} (first : FirstPiece piece bs c)
      (rest : Reads bs cs) : Reads (piece ++ bs) (c :: cs)

theorem Begins.of_append {front back : List UInt8} (h : Begins (front ++ back)) : Begins front := by
  obtain ⟨c, hc⟩ := h
  exact ⟨c, (List.prefix_append front back).trans hc⟩

/-! ## The bytes of a character -/

/-- The number without its last `k` groups of six bits. -/
def leadingBits (n : Nat) : Nat → Nat
  | 0 => n
  | k + 1 => leadingBits n k / 64

theorem exists_leadingBits (bits k : Nat) : ∃ n, leadingBits n k = bits := by
  induction k generalizing bits with
  | zero => exact ⟨bits, rfl⟩
  | succ k ih =>
    obtain ⟨n, hn⟩ := ih (bits * 64)
    exact ⟨n, by rw [leadingBits, hn, Nat.mul_div_cancel _ (by decide)]⟩

/-- The last `k` bytes of the character with number `n`. -/
def laterBytes (n : Nat) : Nat → List UInt8
  | 0 => []
  | k + 1 => UInt8.ofNat (0x80 + leadingBits n k % 64) :: laterBytes n k

/-- The first byte of the character with number `n`, and how many follow it. -/
def firstByte (n : Nat) : Nat × Nat :=
  if n < 0x80 then (n, 0)
  else if n < 0x800 then (0xC0 + n / 64, 1)
  else if n < 0x10000 then (0xE0 + n / 4096, 2)
  else (0xF0 + n / 262144, 3)

theorem encodeChar_eq (c : Char) :
    encodeChar c =
      UInt8.ofNat (firstByte c.toNat).1 :: laterBytes c.toNat (firstByte c.toNat).2 := by
  unfold encodeChar firstByte
  dsimp only
  repeat' split
  all_goals simp [laterBytes, leadingBits, Nat.div_div_eq_div_mul]

theorem ofNat_eq_iff {n : Nat} (h : n < 256) {b : UInt8} : UInt8.ofNat n = b ↔ n = b.toNat := by
  rw [← UInt8.toNat_inj, toNat_ofNat_of_lt h]

/-- The first byte of a character and those behind it. -/
theorem encodeChar_eq_cons {c : Char} {b : UInt8} {bs : List UInt8} :
    encodeChar c = b :: bs ↔
      (firstByte c.toNat).1 = b.toNat ∧ laterBytes c.toNat (firstByte c.toNat).2 = bs := by
  have hlt : (firstByte c.toNat).1 < 256 := by
    have hvalid : c.toNat < 0xD800 ∨ 0xDFFF < c.toNat ∧ c.toNat < 0x110000 := c.valid
    unfold firstByte
    repeat' split
    all_goals
      dsimp only
      omega
  rw [encodeChar_eq, List.cons.injEq, ofNat_eq_iff hlt]

theorem toNat_ofNat_of_isValidChar {n : Nat} (h : n.isValidChar) : (Char.ofNat n).toNat = n := by
  rw [Char.ofNat, dif_pos h]
  rfl

/-! ## A character that has been begun -/

/-- The character with number `n` has the bits that are known, and a next byte in the bounds. -/
def Begun.Covers (p : Begun) (n : Nat) : Prop :=
  p.value * 64 + (p.low - 0x80) ≤ leadingBits n (p.missing - 1) ∧
    leadingBits n (p.missing - 1) ≤ p.value * 64 + (p.high - 0x80)

/-- What is known when bytes have been read that begin a character: it is one of those covered, and
all of them begin with these bytes. -/
structure Begun.Follows (p : Begun) (part : List UInt8) : Prop where
  missing_pos : 0 < p.missing
  bounds : 0x80 ≤ p.low ∧ p.low ≤ p.high ∧ p.high ≤ 0xBF
  ne_nil : part ≠ []
  goes_on : ∀ n, p.Covers n →
    ∃ c : Char, c.toNat = n ∧ encodeChar c = part ++ laterBytes n p.missing
  covers : ∀ (c : Char) (bs : List UInt8), encodeChar c = part ++ bs →
    p.Covers c.toNat ∧ bs = laterBytes c.toNat p.missing

/-- What is known of a character when its first byte has been read and more have to follow. -/
inductive Opens (b : Nat) : Begun → Prop
  | two (low : 0xC2 ≤ b) (high : b < 0xE0) : Opens b ⟨b - 0xC0, 1, 0x80, 0xBF⟩
  | three (low : 0xE0 ≤ b) (high : b < 0xF0) :
    Opens b ⟨b - 0xE0, 2, if b = 0xE0 then 0xA0 else 0x80, if b = 0xED then 0x9F else 0xBF⟩
  | four (low : 0xF0 ≤ b) (high : b < 0xF5) :
    Opens b ⟨b - 0xF0, 3, if b = 0xF0 then 0x90 else 0x80, if b = 0xF4 then 0x8F else 0xBF⟩

/-- A first byte is a character, or belongs to none, or opens one. -/
theorem start_eq (b : Nat) :
    (b < 0x80 ∧ start b = ([Char.ofNat b], none)) ∨
    ((0x80 ≤ b ∧ b < 0xC2 ∨ 0xF5 ≤ b) ∧ start b = ([replacement], none)) ∨
    ∃ p, Opens b p ∧ start b = ([], some p) := by
  unfold start
  split
  · exact .inl ⟨‹_›, rfl⟩
  split
  · exact .inr (.inl ⟨by omega, rfl⟩)
  split
  · exact .inr (.inr ⟨_, .two (by omega) ‹_›, rfl⟩)
  split
  · exact .inr (.inr ⟨_, .three (by omega) ‹_›, rfl⟩)
  split
  · exact .inr (.inr ⟨_, .four (by omega) ‹_›, rfl⟩)
  · exact .inr (.inl ⟨by omega, rfl⟩)

theorem Opens.bounds {b : Nat} {p : Begun} (h : Opens b p) :
    0 < p.missing ∧ 0x80 ≤ p.low ∧ p.low ≤ p.high ∧ p.high ≤ 0xBF := by
  cases h
  all_goals
    dsimp only
    repeat' split
    all_goals omega

/-- The bounds on the second byte leave just the characters with this first byte. -/
theorem Opens.covers_iff {b : Nat} {p : Begun} (h : Opens b p) {n : Nat} :
    p.Covers n ↔ n.isValidChar ∧ (firstByte n).1 = b := by
  unfold Begun.Covers Nat.isValidChar firstByte
  cases h
  -- The bounds differ for the first bytes of long forms, of surrogates and of too large numbers.
  all_goals
    simp only [leadingBits, Nat.sub_self]
    repeat' split
    all_goals omega

/-- A first byte tells how many follow it. -/
theorem Opens.missing_eq {b : Nat} {p : Begun} (h : Opens b p) {n : Nat}
    (hb : (firstByte n).1 = b) : p.missing = (firstByte n).2 := by
  revert hb
  unfold firstByte
  cases h
  all_goals
    repeat' split
    all_goals
      dsimp only
      omega

theorem Opens.follows {b : UInt8} {p : Begun} (h : Opens b.toNat p) : p.Follows [b] where
  missing_pos := h.bounds.1
  bounds := h.bounds.2
  ne_nil := List.cons_ne_nil _ _
  goes_on n hn := by
    obtain ⟨hvalid, hb⟩ := h.covers_iff.mp hn
    refine ⟨Char.ofNat n, toNat_ofNat_of_isValidChar hvalid, encodeChar_eq_cons.mpr ?_⟩
    rw [toNat_ofNat_of_isValidChar hvalid, h.missing_eq hb]
    exact ⟨hb, rfl⟩
  covers c bs hc := by
    obtain ⟨hb, hbs⟩ := encodeChar_eq_cons.mp hc
    refine ⟨h.covers_iff.mpr ⟨c.valid, hb⟩, ?_⟩
    rw [h.missing_eq hb, hbs]
    rfl

/-- The first byte of a character is all of it, or begins it; other bytes are the first of none. -/
theorem start_cases (b : UInt8) :
    (∃ c, start b.toNat = ([c], none) ∧ encodeChar c = [b]) ∨
    (start b.toNat = ([replacement], none) ∧ ¬Begins [b]) ∨
    ∃ p : Begun, start b.toNat = ([], some p) ∧ p.Follows [b] := by
  rcases start_eq b.toNat with ⟨hb, hstart⟩ | ⟨hb, hstart⟩ | ⟨p, hopens, hstart⟩
  · have hvalid : b.toNat.isValidChar := .inl (by omega)
    refine .inl ⟨_, hstart, encodeChar_eq_cons.mpr ?_⟩
    rw [toNat_ofNat_of_isValidChar hvalid, firstByte, if_pos hb]
    exact ⟨rfl, rfl⟩
  · refine .inr (.inl ⟨hstart, ?_⟩)
    rintro ⟨c, bs, hc⟩
    obtain ⟨hfirst, -⟩ := encodeChar_eq_cons.mp hc.symm
    have hvalid : c.toNat < 0xD800 ∨ 0xDFFF < c.toNat ∧ c.toNat < 0x110000 := c.valid
    unfold firstByte at hfirst
    repeat' split at hfirst
    all_goals
      dsimp only at hfirst
      omega
  · exact .inr (.inr ⟨p, hstart, hopens.follows⟩)

/-- The bytes that go on with a character that was begun. -/
theorem Begun.Follows.eq_of_encodeChar {p : Begun} {part : List UInt8} (h : p.Follows part)
    {c : Char} {b : UInt8} {bs : List UInt8} (hc : encodeChar c = part ++ b :: bs) :
    p.low ≤ b.toNat ∧ b.toNat ≤ p.high ∧
      leadingBits c.toNat (p.missing - 1) = p.value * 64 + (b.toNat - 0x80) ∧
      bs = laterBytes c.toNat (p.missing - 1) := by
  obtain ⟨⟨hlow, hhigh⟩, hbs⟩ := h.covers c _ hc
  obtain ⟨k, hk⟩ := Nat.exists_eq_add_one.mpr h.missing_pos
  obtain ⟨hblow, hble, hbhigh⟩ := h.bounds
  rw [hk, Nat.add_sub_cancel] at hlow hhigh ⊢
  rw [hk, laterBytes, List.cons.injEq, eq_comm, ofNat_eq_iff (by omega)] at hbs
  obtain ⟨hb, rfl⟩ := hbs
  refine ⟨?_, ?_, ?_, rfl⟩
  all_goals omega

/-- Without bounds of its own a next byte can be any. -/
theorem covers_of_free {value k n : Nat} :
    Begun.Covers ⟨value, k + 1, 0x80, 0xBF⟩ n ↔ leadingBits n (k + 1) = value := by
  unfold Begun.Covers
  dsimp only
  rw [leadingBits, Nat.add_sub_cancel]
  omega

/-- What one byte more says about a character that needs more than this one. -/
theorem Begun.Follows.step {p : Begun} {part : List UInt8} (h : p.Follows part) {b : UInt8}
    (hb : p.low ≤ b.toNat ∧ b.toNat ≤ p.high) {k : Nat} (hk : p.missing = k + 2) :
    Begun.Follows ⟨p.value * 64 + (b.toNat - 0x80), k + 1, 0x80, 0xBF⟩ (part ++ [b]) where
  missing_pos := Nat.succ_pos k
  bounds := ⟨Nat.le_refl 0x80, (by decide : 0x80 ≤ 0xBF), Nat.le_refl 0xBF⟩
  ne_nil := by simp
  goes_on n hn := by
    obtain ⟨hlow, hle, hhigh⟩ := h.bounds
    rw [covers_of_free] at hn
    have hcovers : p.Covers n := by
      rw [Begun.Covers, hk, show k + 2 - 1 = k + 1 from rfl, hn]
      omega
    obtain ⟨c, hc, hbytes⟩ := h.goes_on n hcovers
    refine ⟨c, hc, ?_⟩
    have hbyte : UInt8.ofNat (0x80 + leadingBits n (k + 1) % 64) = b := by
      rw [ofNat_eq_iff (by omega), hn]
      omega
    rw [hbytes, hk, laterBytes, hbyte, List.append_cons]
  covers c bs hc := by
    rw [← List.append_cons] at hc
    obtain ⟨-, -, hbits, hbs⟩ := h.eq_of_encodeChar hc
    rw [hk] at hbits hbs
    exact ⟨covers_of_free.mpr hbits, hbs⟩

/-- A later byte completes the character, or goes on with it; other bytes belong to no such one. -/
theorem Begun.Follows.next?_cases {p : Begun} {part : List UInt8} (h : p.Follows part) (b : UInt8) :
    (∃ c, p.next? b.toNat = some ([c], none) ∧ encodeChar c = part ++ [b]) ∨
    (p.next? b.toNat = none ∧ ¬Begins (part ++ [b])) ∨
    ∃ q : Begun, p.next? b.toNat = some ([], some q) ∧ q.Follows (part ++ [b]) := by
  unfold Begun.next?
  split
  · next hb =>
    obtain ⟨hlow, hle, hhigh⟩ := h.bounds
    split
    · next hm =>
      have hone : p.missing = 1 := Nat.le_antisymm hm h.missing_pos
      have hcovers : p.Covers (p.value * 64 + (b.toNat - 0x80)) := by
        rw [Begun.Covers, hone, Nat.sub_self, leadingBits]
        omega
      obtain ⟨c, hn, hc⟩ := h.goes_on _ hcovers
      refine .inl ⟨c, by simp only [← hn, Char.ofNat_toNat], ?_⟩
      rw [hc, hone, laterBytes, laterBytes, leadingBits, (ofNat_eq_iff (by omega)).mpr]
      omega
    · next hm =>
      obtain ⟨k, hk⟩ : ∃ k, p.missing = k + 2 := ⟨p.missing - 2, by omega⟩
      exact .inr (.inr ⟨_, by rw [hk]; rfl, h.step hb hk⟩)
  · next hb =>
    refine .inr (.inl ⟨rfl, ?_⟩)
    rintro ⟨c, bs, hc⟩
    rw [List.append_assoc] at hc
    obtain ⟨hlow, hhigh, -, -⟩ := h.eq_of_encodeChar hc.symm
    exact hb ⟨hlow, hhigh⟩

theorem Begun.Follows.begins {p : Begun} {part : List UInt8} (h : p.Follows part) :
    Begins part := by
  obtain ⟨n, hn⟩ := exists_leadingBits (p.value * 64 + (p.low - 0x80)) (p.missing - 1)
  have hcovers : p.Covers n := by
    have hbounds := h.bounds
    rw [Begun.Covers, hn]
    omega
  obtain ⟨c, -, hc⟩ := h.goes_on n hcovers
  exact ⟨c, hc ▸ List.prefix_append _ _⟩

theorem Begun.Follows.not_whole {p : Begun} {part : List UInt8} (h : p.Follows part) (c : Char) :
    encodeChar c ≠ part := by
  intro hc
  obtain ⟨-, hnil⟩ := h.covers c [] (by rw [hc, List.append_nil])
  have hpos := h.missing_pos
  cases hm : p.missing with
  | zero => omega
  | succ k => simp [hm, laterBytes] at hnil

/-- A character that cannot go on is replaced. -/
theorem Begun.Follows.firstPiece {p : Begun} {part : List UInt8} (h : p.Follows part)
    {bs : List UInt8} (hbs : ∀ b ∈ bs.head?, ¬Begins (part ++ [b])) :
    FirstPiece part bs replacement :=
  .part h.ne_nil h.begins h.not_whole hbs

/-! ## What the decoder gives -/

/-- What is read afresh, and behind the first bytes of a character. Both are needed at once, because
the character goes on, or the byte that ends it is read afresh. -/
theorem reads_decodeFrom (bs : List UInt8) :
    Reads bs (decodeFrom none bs) ∧
      ∀ (p : Begun) (part : List UInt8), p.Follows part →
        Reads (part ++ bs) (decodeFrom (some p) bs) := by
  induction bs with
  | nil => exact ⟨.nil, fun p part h => .cons (h.firstPiece (by simp)) .nil⟩
  | cons b bs ih =>
    obtain ⟨ihnone, ihsome⟩ := ih
    have hnone : Reads (b :: bs) (decodeFrom none (b :: bs)) := by
      rw [decodeFrom, feed]
      rcases start_cases b with ⟨c, hstart, hc⟩ | ⟨hstart, hb⟩ | ⟨p, hstart, hp⟩
      · rw [hstart]
        exact .cons (hc ▸ FirstPiece.whole c bs) ihnone
      · rw [hstart]
        exact .cons (.stray hb bs) ihnone
      · rw [hstart]
        exact ihsome p [b] hp
    refine ⟨hnone, fun p part h => ?_⟩
    rcases h.next?_cases b with ⟨c, hnext, hc⟩ | ⟨hnext, hb⟩ | ⟨q, hnext, hq⟩
    · simp only [decodeFrom, feed, hnext, List.append_cons part b bs]
      exact .cons (hc ▸ FirstPiece.whole c bs) ihnone
    · -- The byte is read again behind the piece that it does not belong to.
      have hagain : decodeFrom (some p) (b :: bs) = replacement :: decodeFrom none (b :: bs) := by
        simp only [decodeFrom, feed, hnext, List.cons_append]
      rw [hagain]
      exact .cons (h.firstPiece (by simpa using hb)) hnone
    · simp only [decodeFrom, feed, hnext, List.append_cons part b bs]
      exact ihsome q _ hq

theorem reads_decode (bs : List UInt8) : Reads bs (decode bs) := (reads_decodeFrom bs).1

/-! ## There is only one reading -/

/-- No character is the beginning of another. -/
theorem encodeChar_inj_of_prefix {c d : Char} (h : encodeChar c <+: encodeChar d) : c = d := by
  obtain ⟨bs, hbs⟩ := h
  have hc := decodeFrom_encodeChar c bs
  have hd := decodeFrom_encodeChar d []
  rw [hbs, ← List.append_nil (encodeChar d), hd] at hc
  exact (List.cons.inj hc).1.symm

theorem FirstPiece.ne_nil {piece bs : List UInt8} {c : Char} (h : FirstPiece piece bs c) :
    piece ≠ [] := by
  cases h with
  | whole => exact encodeChar_ne_nil c
  | part ne_nil => exact ne_nil
  | stray => exact List.cons_ne_nil _ _

/-- Nothing that begins a character goes on beyond a first piece. -/
theorem FirstPiece.not_begins {piece bs : List UInt8} {c : Char} (h : FirstPiece piece bs c)
    {b : UInt8} (hb : b ∈ bs.head?) : ¬Begins (piece ++ [b]) := by
  cases h with
  | whole =>
    rintro ⟨d, hd⟩
    obtain rfl := encodeChar_inj_of_prefix ((List.prefix_append _ _).trans hd)
    have hlen := hd.length_le
    simp only [List.length_append, List.length_singleton] at hlen
    omega
  | part _ _ _ longest => exact longest b hb
  | stray not_begins => exact fun h => not_begins h.of_append

/-- A first piece is no beginning of another. -/
theorem FirstPiece.eq_nil_of_append {piece more bs : List UInt8} {c d : Char}
    (h : FirstPiece piece (more ++ bs) c) (h' : FirstPiece (piece ++ more) bs d) : more = [] := by
  cases more with
  | nil => rfl
  | cons b more =>
    have hbegins : Begins (piece ++ b :: more) := by
      generalize hlong : piece ++ b :: more = long at h'
      cases h' with
      | whole => exact ⟨d, List.prefix_refl _⟩
      | part _ begins => exact begins
      | stray =>
        have hlen := congrArg List.length hlong
        have hpos := List.length_pos_iff.mpr h.ne_nil
        simp only [List.length_append, List.length_cons, List.length_nil] at hlen
        omega
    rw [List.append_cons] at hbegins
    exact absurd hbegins.of_append (h.not_begins rfl)

/-- The character that is read is the one with these bytes, if there is one. -/
theorem FirstPiece.encodeChar_eq_or {piece bs : List UInt8} {c : Char}
    (h : FirstPiece piece bs c) :
    encodeChar c = piece ∨ c = replacement ∧ ∀ d, encodeChar d ≠ piece := by
  cases h with
  | whole => exact .inl rfl
  | part _ _ not_whole => exact .inr ⟨rfl, not_whole⟩
  | stray not_begins =>
    exact .inr ⟨rfl, fun d hd => not_begins ⟨d, hd ▸ List.prefix_refl _⟩⟩

theorem FirstPiece.char_unique {piece bs bs' : List UInt8} {c d : Char}
    (h : FirstPiece piece bs c) (h' : FirstPiece piece bs' d) : c = d := by
  rcases h.encodeChar_eq_or with hc | ⟨rfl, hc⟩ <;> rcases h'.encodeChar_eq_or with hd | ⟨rfl, hd⟩
  · exact encodeChar_inj_of_prefix (hc.trans hd.symm ▸ List.prefix_refl _)
  · exact absurd hc (hd c)
  · exact absurd hd (hc d)
  · rfl

/-- The first piece is determined by the bytes: of two, one begins with the other, and then they are
the same. -/
theorem FirstPiece.unique {piece piece' bs bs' : List UInt8} {c d : Char}
    (h : FirstPiece piece bs c) (h' : FirstPiece piece' bs' d)
    (heq : piece ++ bs = piece' ++ bs') : c = d ∧ bs = bs' := by
  rcases List.append_eq_append_iff.mp heq with ⟨more, rfl, rfl⟩ | ⟨more, rfl, rfl⟩
  · obtain rfl := h.eq_nil_of_append h'
    rw [List.append_nil] at h'
    exact ⟨h.char_unique h', rfl⟩
  · obtain rfl := h'.eq_nil_of_append h
    rw [List.append_nil] at h
    exact ⟨h.char_unique h', rfl⟩

theorem Reads.unique {bs : List UInt8} {cs ds : List Char} (h : Reads bs cs) (h' : Reads bs ds) :
    cs = ds := by
  induction h generalizing ds with
  | nil =>
    generalize hbs : ([] : List UInt8) = bs at h'
    cases h' with
    | nil => rfl
    | cons first => exact absurd (List.append_eq_nil_iff.mp hbs.symm).1 first.ne_nil
  | @cons piece rest c cs first _ ih =>
    generalize hbs : piece ++ rest = bs at h'
    cases h' with
    | nil => exact absurd (List.append_eq_nil_iff.mp hbs).1 first.ne_nil
    | cons first' h' =>
      obtain ⟨rfl, rfl⟩ := first.unique first' hbs
      rw [ih h']

/-- **Decoding.** The decoder gives the one text that is read from the bytes. -/
theorem reads_iff {bs : List UInt8} {cs : List Char} : Reads bs cs ↔ decode bs = cs :=
  ⟨fun h => (reads_decode bs).unique h, fun h => h ▸ reads_decode bs⟩

/-- A character without its last byte is one piece; no byte of a long form or of a surrogate goes on
with the one before it. -/
example : decode [0xF0, 0x9F, 0x98, 0x0A, 0xC0, 0x80, 0x0A, 0xED, 0xA0, 0x80] =
    "\uFFFD\n\uFFFD\uFFFD\n\uFFFD\uFFFD\uFFFD".toList := by decide

end CodeTags.Utf8
