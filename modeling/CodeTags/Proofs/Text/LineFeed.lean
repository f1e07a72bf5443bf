import CodeTags.Proofs.Text.Lines
import CodeTags.Service

/-!
# Line ends in bytes and in text

A line feed is one byte, and that byte is in no other character.

* `lineFeed_mem_encode`: the encoding of a text has a line feed where the text has one.
* `decode_append_cons_of_lt`: a byte that is a character of its own ends whatever character was
  begun before it.
* `decode_append_lineFeed`: such is a line feed, so bytes are decoded line by line.
* `newline_mem_decode`: decoding makes no line feeds and loses none.
* `newline_not_mem_requestOf`: the path that a line of input asks for is one line of text.
-/

namespace CodeTags

namespace Utf8

/-! ## Writing -/

theorem lineFeed_mem_encodeChar {c : Char} : lineFeed ∈ encodeChar c ↔ c = '\n' := by
  constructor
  · intro h
    have hc : c.toNat = 10 := by
      have hle : c.toNat < 0xD800 ∨ 0xDFFF < c.toNat ∧ c.toNat < 0x110000 := c.valid
      unfold encodeChar lineFeed at h
      dsimp only at h
      -- Every byte of a longer encoding is at least `0x80`.
      repeat' split at h
      all_goals
        simp only [List.mem_cons, List.not_mem_nil, or_false, ← UInt8.toNat_inj,
          UInt8.toNat_ofNat'] at h
        simp at h
        omega
    exact Char.toNat_inj.mp hc
  · rintro rfl
    decide

theorem lineFeed_mem_encode {cs : List Char} : lineFeed ∈ encode cs ↔ '\n' ∈ cs := by
  simp [encode, List.mem_flatMap, lineFeed_mem_encodeChar]

@[simp] theorem encode_append (cs ds : List Char) : encode (cs ++ ds) = encode cs ++ encode ds :=
  List.flatMap_append

/-- The bytes of a finished line. -/
theorem encode_concat_newline (cs : List Char) :
    encode (cs ++ ['\n']) = encode cs ++ [lineFeed] :=
  encode_append cs ['\n']

/-! ## Reading -/

/-- Completing the character can only give one that needs more than one byte. -/
def Begun.IsLong (p : Begun) : Prop :=
  0x80 ≤ p.low ∧ 2 ≤ (if p.missing ≤ 1 then p.value else p.value * 64 + (p.low - 0x80))

theorem isLong_start {b : Nat} {p : Begun} (h : (start b).2 = some p) : p.IsLong := by
  unfold start at h
  unfold Begun.IsLong
  repeat' split at h
  all_goals simp only [Option.some.injEq, reduceCtorEq] at h
  all_goals
    subst h
    dsimp only
    split <;> omega

theorem isLong_next? {p q : Begun} {b : Nat} {cs : List Char} (hp : p.IsLong)
    (h : p.next? b = some (cs, some q)) : q.IsLong := by
  obtain ⟨hlow, hvalue⟩ := hp
  unfold Begun.next? at h
  unfold Begun.IsLong
  repeat' split at h
  · simp at h
  · next hb hm =>
    simp only [Option.some.injEq, Prod.mk.injEq] at h
    rw [if_neg hm] at hvalue
    obtain ⟨-, rfl⟩ := h
    dsimp only
    split <;> omega
  · simp at h

/-- A character begun is always a long one. -/
theorem isLong_feed {s : Option Begun} {b : UInt8} {q : Begun} (hs : ∀ p ∈ s, p.IsLong)
    (h : (feed s b).2 = some q) : q.IsLong := by
  cases s with
  | none => exact isLong_start h
  | some p =>
    simp only [feed] at h
    split at h
    · next r hr => exact isLong_next? (hs p rfl) (by rw [hr, ← h])
    · exact isLong_start h

theorem eq_ten_of_ofNat {n : Nat} (h : Char.ofNat n = '\n') : n = 10 := by
  unfold Char.ofNat at h
  by_cases hn : n.isValidChar
  · rw [dif_pos hn] at h
    exact congrArg Char.toNat h
  · rw [dif_neg hn] at h
    exact absurd h (by decide)

theorem newline_mem_start {b : Nat} : '\n' ∈ (start b).1 ↔ b = 10 := by
  constructor
  · intro h
    unfold start at h
    split at h
    · exact eq_ten_of_ofNat (List.mem_singleton.mp h).symm
    · repeat' split at h
      all_goals simp [replacement] at h
  · rintro rfl
    decide

theorem newline_mem_feed {s : Option Begun} (hs : ∀ p ∈ s, p.IsLong) {b : UInt8} :
    '\n' ∈ (feed s b).1 ↔ b = lineFeed := by
  rw [← UInt8.toNat_inj, show lineFeed.toNat = 10 from rfl]
  cases s with
  | none => exact newline_mem_start
  | some p =>
    obtain ⟨hlow, hvalue⟩ := hs p rfl
    simp only [feed]
    split
    · next r hr =>
      -- The byte goes on with the character, so neither is a line feed.
      unfold Begun.next? at hr
      split at hr
      · next hb =>
        obtain rfl := Option.some.inj hr
        split
        · next hm =>
          rw [if_pos hm] at hvalue
          refine iff_of_false (fun h => ?_) (by omega)
          have := eq_ten_of_ofNat (List.mem_singleton.mp h).symm
          omega
        · exact iff_of_false (by simp) (by omega)
      · simp at hr
    · simp [newline_mem_start, replacement]

/-- A byte that is a character of its own ends whatever was begun. -/
theorem feed_of_lt {s : Option Begun} (hs : ∀ p ∈ s, p.IsLong) {b : UInt8} (hb : b.toNat < 0x80) :
    feed s b = (decodeFrom s [] ++ [Char.ofNat b.toNat], none) := by
  have hstart : start b.toNat = ([Char.ofNat b.toNat], none) := by rw [start, if_pos hb]
  cases s with
  | none => exact hstart
  | some p =>
    have hn : p.next? b.toNat = none := by
      have hlow := (hs p rfl).1
      unfold Begun.next?
      rw [if_neg (by omega)]
    simp only [feed, hn, hstart]
    rfl

/-- What is behind such a byte is decoded afresh. -/
theorem decodeFrom_append_cons_of_lt {s : Option Begun} (hs : ∀ p ∈ s, p.IsLong) {b : UInt8}
    (hb : b.toNat < 0x80) (bs cs : List UInt8) :
    decodeFrom s (bs ++ b :: cs) = decodeFrom s bs ++ Char.ofNat b.toNat :: decodeFrom none cs := by
  induction bs generalizing s with
  | nil => simp [decodeFrom, feed_of_lt hs hb]
  | cons b' bs ih =>
    rw [List.cons_append, decodeFrom, ih fun q hq => isLong_feed hs hq, decodeFrom,
      List.append_assoc]

theorem newline_mem_decodeFrom {s : Option Begun} (hs : ∀ p ∈ s, p.IsLong) {bs : List UInt8} :
    '\n' ∈ decodeFrom s bs ↔ lineFeed ∈ bs := by
  induction bs generalizing s with
  | nil => cases s <;> simp [decodeFrom, replacement]
  | cons b bs ih =>
    rw [decodeFrom, List.mem_append, newline_mem_feed hs, ih fun q hq => isLong_feed hs hq,
      List.mem_cons, eq_comm]

theorem decode_append_cons_of_lt {b : UInt8} (hb : b.toNat < 0x80) (bs cs : List UInt8) :
    decode (bs ++ b :: cs) = decode bs ++ Char.ofNat b.toNat :: decode cs :=
  decodeFrom_append_cons_of_lt (by simp) hb bs cs

theorem decode_append_lineFeed (bs cs : List UInt8) :
    decode (bs ++ lineFeed :: cs) = decode bs ++ '\n' :: decode cs :=
  decode_append_cons_of_lt (by decide) bs cs

/-- The text of a finished line. -/
theorem decode_concat_lineFeed (bs : List UInt8) :
    decode (bs ++ [lineFeed]) = decode bs ++ ['\n'] :=
  decode_append_lineFeed bs []

/-- Decoding makes no line feeds and loses none. -/
theorem newline_mem_decode {bs : List UInt8} : '\n' ∈ decode bs ↔ lineFeed ∈ bs :=
  newline_mem_decodeFrom (by simp)

end Utf8

/-! ## The text of a line -/

/-- The text of a line has no line feed but the one at its end. -/
theorem decode_of_mem_linesAfter {bytes line : List UInt8} (h : line ∈ linesAfter lineFeed bytes) :
    ∃ cs, '\n' ∉ cs ∧ (Utf8.decode line = cs ++ ['\n'] ∨ Utf8.decode line = cs) := by
  obtain ⟨body, hbody, rfl | rfl⟩ := mem_linesAfter h
  · exact ⟨Utf8.decode body, mt Utf8.newline_mem_decode.mp hbody,
      .inl (Utf8.decode_concat_lineFeed body)⟩
  · exact ⟨Utf8.decode line, mt Utf8.newline_mem_decode.mp hbody, .inr rfl⟩

/-- A finished line loses its end, and then the carriage returns in front of it. -/
theorem lineContent_concat {cs : List Char} (h : '\n' ∉ cs) :
    lineContent (cs ++ ['\n']) = trimEnd (· == '\r') cs := by
  have hself : trimEnd (· == '\n') cs = cs :=
    trimEnd_eq_self fun c hc => beq_eq_false_iff_ne.mpr fun (heq : c = '\n') => h (heq ▸ hc)
  rw [lineContent, trimEnd_concat_of_pos (by simp), hself]

theorem newline_not_mem_lineContent {cs : List Char} (h : '\n' ∉ cs) :
    '\n' ∉ lineContent cs ∧ '\n' ∉ lineContent (cs ++ ['\n']) := by
  have hcs : ∀ p : Char → Bool, '\n' ∉ trimEnd p cs := fun p hm => h (mem_of_mem_trimEnd hm)
  unfold lineContent
  rw [trimEnd_concat_of_pos (by simp)]
  exact ⟨fun hm => hcs _ (mem_of_mem_trimEnd hm), fun hm => hcs _ (mem_of_mem_trimEnd hm)⟩

/-- Whatever a line of input holds, the path that it asks for is on one line. -/
theorem newline_not_mem_requestOf {bytes line : List UInt8}
    (h : line ∈ linesAfter lineFeed bytes) : '\n' ∉ (requestOf line).toList := by
  obtain ⟨cs, hcs, hd | hd⟩ := decode_of_mem_linesAfter h <;>
    rw [requestOf, requestPath, trimBlankEnd, String.toList_ofList, String.toList_ofList, hd]
  · rw [trimEnd_concat_of_pos isBlank_newline]
    exact fun hm => hcs (mem_of_mem_trimEnd hm)
  · exact fun hm => hcs (mem_of_mem_trimEnd hm)

end CodeTags
