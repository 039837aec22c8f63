import MakeTools.Text.Utf8

/-!
# MakeTools.Proofs.Utf8

What is written as UTF-8 is read back as it was.

The bytes of a character are one piece, whatever follows them
(`pieces_encodeChar_append`): the lead byte says how many bytes follow, each of
these gives six bits, and the bounds on the second byte leave out nothing but
overlong forms, surrogates and what lies behind the last code point.
-/

namespace MakeTools.Text.Utf8

variable {c : Char} {n bits more low high : Nat}

/-! ## Bytes that follow -/

/-- A byte that follows gives its six bits. -/
theorem continuation_cons (hl : low ≤ 0x80 + n % 64) (hh : 0x80 + n % 64 ≤ high)
    (s : List UInt8) :
    continuation bits (more + 1) low high (.ofNat (0x80 + n % 64) :: s) =
      ((continuation (bits * 64 + n % 64) more 0x80 0xBF s).1,
        (continuation (bits * 64 + n % 64) more 0x80 0xBF s).2 + 1) := by
  have hn : 0x80 + n % 64 < 256 := by omega
  have hb : (UInt8.ofNat (0x80 + n % 64)).toNat = 0x80 + n % 64 := UInt8.toNat_ofNat_of_lt' hn
  simp only [continuation, hb, hl, hh, decide_true, Bool.and_self, if_true, Nat.add_sub_cancel_left]

/-- Any six bits may follow the second byte. -/
theorem continuation_cons_of_full (s : List UInt8) :
    continuation bits (more + 1) 0x80 0xBF (.ofNat (0x80 + n % 64) :: s) =
      ((continuation (bits * 64 + n % 64) more 0x80 0xBF s).1,
        (continuation (bits * 64 + n % 64) more 0x80 0xBF s).2 + 1) :=
  continuation_cons (by omega) (by omega) s

theorem continuation_zero (h : bits = c.toNat) (s : List UInt8) :
    continuation bits 0 low high s = (.ok c, 0) := by
  rw [continuation, h, Char.ofNat_toNat]

/-! ## Characters -/

theorem opening_ofNat (hn : n < 256) (h : lead? n = some ⟨bits, more, low, high⟩)
    (s : List UInt8) : opening (.ofNat n) s = continuation bits more low high s := by
  rw [opening, UInt8.toNat_ofNat_of_lt' hn, h]

/-- The first byte of a character asks for those that follow. -/
theorem opening_encodeChar (c : Char) (s : List UInt8) :
    ∃ b bytes, encodeChar c = b :: bytes ∧ opening b (bytes ++ s) = (.ok c, bytes.length) := by
  have hc : c.toNat < 0xD800 ∨ 0xDFFF < c.toNat ∧ c.toNat < 0x110000 := c.valid
  by_cases h1 : c.toNat < 0x80
  · have he : encodeChar c = [.ofNat c.toNat] := by simp only [encodeChar, h1, if_true]
    refine ⟨_, _, he, ?_⟩
    have hl : lead? c.toNat = some ⟨c.toNat, 0, 0x80, 0xBF⟩ := by rw [lead?, if_pos h1]
    rw [opening_ofNat (by omega) hl, continuation_zero rfl]
    rfl
  by_cases h2 : c.toNat < 0x800
  · have he : encodeChar c = [.ofNat (0xC0 + c.toNat / 64), .ofNat (0x80 + c.toNat % 64)] := by
      simp only [encodeChar, h1, h2, if_true, if_false]
    refine ⟨_, _, he, ?_⟩
    have hl : lead? (0xC0 + c.toNat / 64) = some ⟨c.toNat / 64, 1, 0x80, 0xBF⟩ := by
      rw [lead?, if_neg (by omega), if_neg (by omega), if_pos (by omega), Nat.add_sub_cancel_left]
    rw [opening_ofNat (by omega) hl, List.cons_append, continuation_cons_of_full,
      continuation_zero (c := c) (by omega)]
    rfl
  by_cases h3 : c.toNat < 0x10000
  · have he : encodeChar c = [.ofNat (0xE0 + c.toNat / 4096), .ofNat (0x80 + c.toNat / 64 % 64),
        .ofNat (0x80 + c.toNat % 64)] := by
      simp only [encodeChar, h1, h2, h3, if_true, if_false]
    refine ⟨_, _, he, ?_⟩
    have hl : lead? (0xE0 + c.toNat / 4096) = some ⟨c.toNat / 4096, 2,
        if 0xE0 + c.toNat / 4096 = 0xE0 then 0xA0 else 0x80,
        if 0xE0 + c.toNat / 4096 = 0xED then 0x9F else 0xBF⟩ := by
      rw [lead?, if_neg (by omega), if_neg (by omega), if_neg (by omega), if_pos (by omega),
        Nat.add_sub_cancel_left]
    rw [opening_ofNat (by omega) hl, List.cons_append,
      continuation_cons (by split <;> omega) (by split <;> omega), List.cons_append,
      continuation_cons_of_full, continuation_zero (c := c) (by omega)]
    rfl
  · have he : encodeChar c = [.ofNat (0xF0 + c.toNat / 262144),
        .ofNat (0x80 + c.toNat / 4096 % 64), .ofNat (0x80 + c.toNat / 64 % 64),
        .ofNat (0x80 + c.toNat % 64)] := by
      simp only [encodeChar, h1, h2, h3, if_false]
    refine ⟨_, _, he, ?_⟩
    have hl : lead? (0xF0 + c.toNat / 262144) = some ⟨c.toNat / 262144, 3,
        if 0xF0 + c.toNat / 262144 = 0xF0 then 0x90 else 0x80,
        if 0xF0 + c.toNat / 262144 = 0xF4 then 0x8F else 0xBF⟩ := by
      rw [lead?, if_neg (by omega), if_neg (by omega), if_neg (by omega), if_neg (by omega),
        if_pos (by omega), Nat.add_sub_cancel_left]
    rw [opening_ofNat (by omega) hl, List.cons_append,
      continuation_cons (by split <;> omega) (by split <;> omega), List.cons_append,
      continuation_cons_of_full, List.cons_append, continuation_cons_of_full,
      continuation_zero (c := c) (by omega)]
    rfl

/-- The bytes of a character are one piece. -/
theorem pieces_encodeChar_append (c : Char) (s : List UInt8) :
    pieces (encodeChar c ++ s) = ⟨encodeChar c, .ok c⟩ :: pieces s := by
  obtain ⟨b, bytes, he, ho⟩ := opening_encodeChar c s
  rw [he, List.cons_append, pieces, ho]
  simp

/-! ## Texts -/

theorem decodeFrom_pieces_encode (position : Nat) (s : List Char) :
    decodeFrom position (pieces (encode s)) = .ok s := by
  induction s generalizing position with
  | nil => simp [encode, pieces, decodeFrom]
  | cons c s ih =>
      have he : encode (c :: s) = encodeChar c ++ encode s := List.flatMap_cons
      rw [he, pieces_encodeChar_append, decodeFrom]
      simp only [ih, Except.map]

/-- Reading gives back what was written. -/
@[simp] theorem decode_encode (s : List Char) : decode (encode s) = .ok s :=
  decodeFrom_pieces_encode 0 s

/-- What is written holds no ill-formed piece, so that nothing is replaced. -/
@[simp] theorem decodeLossy_encode (s : List Char) : decodeLossy (encode s) = s := by
  induction s with
  | nil => simp [encode, decodeLossy, pieces]
  | cons c s ih =>
      have he : encode (c :: s) = encodeChar c ++ encode s := List.flatMap_cons
      rw [he, decodeLossy, pieces_encodeChar_append, List.map_cons, ← decodeLossy, ih]

end MakeTools.Text.Utf8
