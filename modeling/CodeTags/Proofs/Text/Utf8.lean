import CodeTags.Proofs.Text.LineFeed
import CodeTags.Text.Slice

/-!
# Text as bytes and back

* `length_encode`, `count_lineFeed_encode`: places in the bytes and in the text.
* `decode_encode`, `decode?_encode`: what was written is read back.
* `encode_lt_encode`: the bytes of texts are in the order of the texts, character by character.
-/

namespace CodeTags.Utf8

theorem toNat_ofNat_of_lt {n : Nat} (h : n < 256) : (UInt8.ofNat n).toNat = n := by
  simp [Nat.mod_eq_of_lt h]

/-! ## Size -/

theorem length_encodeChar (c : Char) : (encodeChar c).length = c.utf8Size := by
  have hle : ∀ v : UInt32, c.val ≤ v ↔ c.toNat ≤ v.toNat := fun _ => UInt32.le_iff_toNat_le
  unfold encodeChar Char.utf8Size
  simp only [hle, UInt32.toNat_ofNatLT]
  generalize c.toNat = n
  repeat' split
  all_goals
    first
      | rfl
      | omega

theorem length_encode (cs : List Char) : (encode cs).length = byteLength cs := by
  induction cs with
  | nil => rfl
  | cons c cs ih =>
    rw [encode, List.flatMap_cons, List.length_append, length_encodeChar, byteLength_cons, ← ih,
      encode]

/-- There are as many line feeds in the bytes as in the text. -/
theorem count_lineFeed_encode (cs : List Char) : (encode cs).count lineFeed = cs.count '\n' := by
  induction cs with
  | nil => rfl
  | cons c cs ih =>
    rw [encode, List.flatMap_cons, List.count_append, ← encode, ih]
    by_cases hc : c = '\n'
    · subst hc
      rw [List.count_cons_self, Nat.add_comm]
      rfl
    · rw [List.count_eq_zero_of_not_mem (mt lineFeed_mem_encodeChar.mp hc),
        List.count_cons_of_ne hc, Nat.zero_add]

/-! ## Reading back -/

/-- A first byte that more have to follow. -/
theorem decodeFrom_none_cons {n : Nat} {p : Begun} (hn : n < 256) (h : start n = ([], some p))
    (bs : List UInt8) : decodeFrom none (UInt8.ofNat n :: bs) = decodeFrom (some p) bs := by
  rw [decodeFrom, feed, toNat_ofNat_of_lt hn, h, List.nil_append]

/-- A later byte adds its six bits, and completes the character if it is the last one. -/
theorem decodeFrom_some_cons {value missing low high bits : Nat} (hlow : low ≤ 0x80 + bits)
    (hhigh : 0x80 + bits ≤ high) (hbits : bits < 64) (bs : List UInt8) :
    decodeFrom (some ⟨value, missing, low, high⟩) (UInt8.ofNat (0x80 + bits) :: bs) =
      if missing ≤ 1 then Char.ofNat (value * 64 + bits) :: decodeFrom none bs
      else decodeFrom (some ⟨value * 64 + bits, missing - 1, 0x80, 0xBF⟩) bs := by
  rw [decodeFrom, feed, toNat_ofNat_of_lt (by omega), Begun.next?, if_pos ⟨hlow, hhigh⟩,
    Nat.add_sub_cancel_left]
  by_cases h : missing ≤ 1 <;> simp [h]

/-- The bytes of a character are read as that character. -/
theorem decodeFrom_encodeChar (c : Char) (bs : List UInt8) :
    decodeFrom none (encodeChar c ++ bs) = c :: decodeFrom none bs := by
  have hvalid : c.toNat < 0xD800 ∨ 0xDFFF < c.toNat ∧ c.toNat < 0x110000 := c.valid
  have hc : ∀ n, n = c.toNat → Char.ofNat n = c := fun n h => h ▸ Char.ofNat_toNat c
  unfold encodeChar
  dsimp only
  generalize c.toNat = n at hvalid hc
  have hbits : n % 64 < 64 := Nat.mod_lt _ (by decide)
  have hbits' : n / 64 % 64 < 64 := Nat.mod_lt _ (by decide)
  have hbits'' : n / 4096 % 64 < 64 := Nat.mod_lt _ (by decide)
  split
  · next h1 =>
    rw [List.singleton_append, decodeFrom, feed, toNat_ofNat_of_lt (by omega), start, if_pos h1,
      hc n rfl, List.singleton_append]
  · split
    · next h1 h2 =>
      have hstart : start (0xC0 + n / 64) = ([], some ⟨n / 64, 1, 0x80, 0xBF⟩) := by
        rw [start, if_neg (by omega), if_neg (by omega), if_pos (by omega),
          Nat.add_sub_cancel_left]
      simp only [List.cons_append, List.nil_append]
      rw [decodeFrom_none_cons (by omega) hstart,
        decodeFrom_some_cons (by omega) (by omega) hbits, if_pos (by decide), hc _ (by omega)]
    · split
      · next h1 h2 h3 =>
        have hstart : start (0xE0 + n / 4096) =
            ([], some ⟨n / 4096, 2, if 0xE0 + n / 4096 = 0xE0 then 0xA0 else 0x80,
              if 0xE0 + n / 4096 = 0xED then 0x9F else 0xBF⟩) := by
          rw [start, if_neg (by omega), if_neg (by omega), if_neg (by omega),
            if_pos (by omega), Nat.add_sub_cancel_left]
        simp only [List.cons_append, List.nil_append]
        rw [decodeFrom_none_cons (by omega) hstart,
          decodeFrom_some_cons (by split <;> omega) (by split <;> omega) hbits',
          if_neg (by decide), decodeFrom_some_cons (by omega) (by omega) hbits,
          if_pos (by decide), hc _ (by omega)]
      · next h1 h2 h3 =>
        have hstart : start (0xF0 + n / 262144) =
            ([], some ⟨n / 262144, 3, if 0xF0 + n / 262144 = 0xF0 then 0x90 else 0x80,
              if 0xF0 + n / 262144 = 0xF4 then 0x8F else 0xBF⟩) := by
          rw [start, if_neg (by omega), if_neg (by omega), if_neg (by omega),
            if_neg (by omega), if_pos (by omega), Nat.add_sub_cancel_left]
        simp only [List.cons_append, List.nil_append]
        rw [decodeFrom_none_cons (by omega) hstart,
          decodeFrom_some_cons (by split <;> omega) (by split <;> omega) hbits'',
          if_neg (by decide), decodeFrom_some_cons (by omega) (by omega) hbits',
          if_neg (by decide), decodeFrom_some_cons (by omega) (by omega) hbits,
          if_pos (by decide), hc _ (by omega)]

@[simp] theorem decode_encode (cs : List Char) : decode (encode cs) = cs := by
  induction cs with
  | nil => rfl
  | cons c cs ih =>
    rw [encode, List.flatMap_cons, decode, decodeFrom_encodeChar]
    exact congrArg (c :: ·) ih

@[simp] theorem decode?_encode (cs : List Char) : decode? (encode cs) = some cs := by
  rw [decode?, decode_encode, if_pos rfl]

/-! ## Order -/

/-- The bytes of a character that comes first come first, whatever is behind them. -/
theorem encodeChar_append_lt {c d : Char} (h : c < d) (as bs : List UInt8) :
    encodeChar c ++ as < encodeChar d ++ bs := by
  have hlt : c.toNat < d.toNat := h
  have hd : d.toNat < 0x110000 := by
    rcases d.valid with h | h
    · exact Nat.lt_trans h (by decide)
    · exact h.2
  unfold encodeChar
  dsimp only
  generalize c.toNat = m at hlt
  generalize d.toNat = n at hlt hd
  repeat' split
  -- The first byte tells apart how many bytes there are; the bits of equally many are in order.
  all_goals
    simp only [List.cons_append, List.nil_append, List.cons_lt_cons_iff, UInt8.lt_iff_toNat_lt,
      ← UInt8.toNat_inj]
    simp (disch := omega) only [toNat_ofNat_of_lt]
    omega

theorem encodeChar_ne_nil (c : Char) : encodeChar c ≠ [] := by
  unfold encodeChar
  dsimp only
  repeat' split
  all_goals simp

theorem encode_lt_encode {cs ds : List Char} (h : cs < ds) : encode cs < encode ds := by
  induction h with
  | @nil d ds =>
    obtain ⟨b, bs, hb⟩ := List.exists_cons_of_ne_nil (encodeChar_ne_nil d)
    rw [encode, encode, List.flatMap_nil, List.flatMap_cons, hb]
    exact List.Lex.nil
  | rel h => exact encodeChar_append_lt h _ _
  | cons _ ih => exact List.append_left_lt ih

end CodeTags.Utf8
