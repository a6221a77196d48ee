import Mathlib.Tactic
import FormulaOcr.Encoding.Utf8

/-! UTF-8 reads back what it wrote: each character stands at the front of whatever follows it, and a
strict reader takes a written text for itself. -/

namespace FormulaOcr.Encoding.Utf8

theorem toNat_ofNat {n : ℕ} (h : n < 256) : (UInt8.ofNat n).toNat = n := by
  rw [UInt8.toNat_ofNat']
  exact Nat.mod_eq_of_lt h

theorem scalar_bound (c : Char) : c.toNat < 0xD800 ∨ 0xE000 ≤ c.toNat ∧ c.toNat < 0x110000 := by
  have h := c.valid
  simp only [UInt32.isValidChar, Nat.isValidChar] at h
  change c.toNat < 0xd800 ∨ 0xdfff < c.toNat ∧ c.toNat < 0x110000 at h
  omega

theorem front_one {c : Char} (h : c.toNat < 0x80) (rest : Bytes) :
    front (.ofNat c.toNat) rest = .char c rest := by
  have hb := toNat_ofNat (n := c.toNat) (by omega)
  unfold front
  rw [if_pos (by rw [UInt8.lt_iff_toNat_lt, hb]; exact h), hb, Char.ofNat_toNat]

theorem front_two {c : Char} {a b : UInt8} (rest : Bytes) (h1 : 0x80 ≤ c.toNat)
    (h2 : c.toNat < 0x800) (ha : a.toNat = 0xC0 + c.toNat / 64)
    (hb : b.toNat = 0x80 + c.toNat % 64) : front a (b :: rest) = .char c rest := by
  unfold front
  rw [if_neg (by simp [UInt8.lt_iff_toNat_lt, ha]; omega),
    if_neg (by simp [UInt8.lt_iff_toNat_lt, UInt8.le_iff_toNat_le, ha]; omega),
    if_pos (by simp [UInt8.lt_iff_toNat_lt, ha]; omega)]
  have htail : isTail b = true := by
    simp [isTail, UInt8.lt_iff_toNat_lt, UInt8.le_iff_toNat_le, hb]; omega
  have hjoin : join (a.toNat - 0xC0) [b] = c := by
    simp only [join, List.foldl_cons, List.foldl_nil, ha, hb]
    rw [show (192 + c.toNat / 64 - 192) * 64 + (128 + c.toNat % 64 - 128) = c.toNat by omega,
      Char.ofNat_toNat]
  simp [htail, hjoin]


theorem front_three {c : Char} {a b d : UInt8} (rest : Bytes) (h1 : 0x800 ≤ c.toNat)
    (h2 : c.toNat < 0x10000) (ha : a.toNat = 0xE0 + c.toNat / 64 / 64)
    (hb : b.toNat = 0x80 + c.toNat / 64 % 64) (hd : d.toNat = 0x80 + c.toNat % 64) :
    front a (b :: d :: rest) = .char c rest := by
  have hc := scalar_bound c
  unfold front
  rw [if_neg (by simp [UInt8.lt_iff_toNat_lt, ha]; omega),
    if_neg (by simp [UInt8.lt_iff_toNat_lt, UInt8.le_iff_toNat_le, ha]; omega),
    if_neg (by simp [UInt8.lt_iff_toNat_lt, ha]),
    if_pos (by simp [UInt8.lt_iff_toNat_lt, ha]; omega)]
  have htail : isTail d = true := by
    simp [isTail, UInt8.lt_iff_toNat_lt, UInt8.le_iff_toNat_le, hd]; omega
  have hhalf : (a == 0xED && isTail b && 0xA0 ≤ b && isTail d) = false := by
    simp [← UInt8.toNat_inj, UInt8.le_iff_toNat_le, ha, hb]; omega
  have hsecond : isSecond a b = true := by
    simp [isSecond, isTail, ← UInt8.toNat_inj, UInt8.lt_iff_toNat_lt, UInt8.le_iff_toNat_le, ha, hb]
    omega
  have hjoin : join (a.toNat - 0xE0) [b, d] = c := by
    simp only [join, List.foldl_cons, List.foldl_nil, ha, hb, hd]
    rw [show ((224 + c.toNat / 64 / 64 - 224) * 64 + (128 + c.toNat / 64 % 64 - 128)) * 64 +
      (128 + c.toNat % 64 - 128) = c.toNat by omega, Char.ofNat_toNat]
  dsimp only
  rw [if_neg (by rw [hhalf]; decide), if_neg (by rw [hsecond]; decide),
    if_neg (by rw [htail]; decide), hjoin]

theorem front_four {c : Char} {a b d e : UInt8} (rest : Bytes) (h1 : 0x10000 ≤ c.toNat)
    (ha : a.toNat = 0xF0 + c.toNat / 64 / 64 / 64) (hb : b.toNat = 0x80 + c.toNat / 64 / 64 % 64)
    (hd : d.toNat = 0x80 + c.toNat / 64 % 64) (he : e.toNat = 0x80 + c.toNat % 64) :
    front a (b :: d :: e :: rest) = .char c rest := by
  have hc := scalar_bound c
  unfold front
  rw [if_neg (by simp [UInt8.lt_iff_toNat_lt, ha]; omega),
    if_neg (by simp [UInt8.lt_iff_toNat_lt, UInt8.le_iff_toNat_le, ha]; omega),
    if_neg (by simp [UInt8.lt_iff_toNat_lt, ha]; omega),
    if_neg (by simp [UInt8.lt_iff_toNat_lt, ha])]
  have htail : isTail d = true ∧ isTail e = true := by
    simp [isTail, UInt8.lt_iff_toNat_lt, UInt8.le_iff_toNat_le, hd, he]; omega
  have hsecond : isSecond a b = true := by
    simp [isSecond, isTail, ← UInt8.toNat_inj, UInt8.lt_iff_toNat_lt, UInt8.le_iff_toNat_le, ha, hb]
    omega
  have hjoin : join (a.toNat - 0xF0) [b, d, e] = c := by
    simp only [join, List.foldl_cons, List.foldl_nil, ha, hb, hd, he]
    rw [show (((240 + c.toNat / 64 / 64 / 64 - 240) * 64 +
      (128 + c.toNat / 64 / 64 % 64 - 128)) * 64 + (128 + c.toNat / 64 % 64 - 128)) * 64 +
      (128 + c.toNat % 64 - 128) = c.toNat by omega, Char.ofNat_toNat]
  simp only [hsecond, htail, hjoin, Bool.not_true, Bool.false_eq_true, if_false]

/-- A written character stands at the front of whatever follows it. -/
theorem front_encodeChar (c : Char) (rest : Bytes) :
    ∃ b tail, encodeChar c = b :: tail ∧ front b (tail ++ rest) = .char c rest := by
  have hc := scalar_bound c
  unfold encodeChar
  dsimp only
  rcases lt_or_ge c.toNat 0x80 with h1 | h1
  · exact ⟨_, [], by rw [if_pos h1], front_one h1 rest⟩
  rw [if_neg (by omega)]
  rcases lt_or_ge c.toNat 0x800 with h2 | h2
  · rw [if_pos h2]
    exact ⟨_, _, rfl, front_two rest h1 h2 (toNat_ofNat (by omega)) (toNat_ofNat (by omega))⟩
  rw [if_neg (by omega)]
  rcases lt_or_ge c.toNat 0x10000 with h3 | h3
  · rw [if_pos h3]
    exact ⟨_, _, rfl, front_three rest h2 h3 (toNat_ofNat (by omega)) (toNat_ofNat (by omega))
      (toNat_ofNat (by omega))⟩
  · rw [if_neg (by omega)]
    exact ⟨_, _, rfl, front_four rest h3 (toNat_ofNat (by omega)) (toNat_ofNat (by omega))
      (toNat_ofNat (by omega)) (toNat_ofNat (by omega))⟩

theorem decodeFrom_encode (lenient : Bool) (t : List Char) :
    ∀ fuel place, (encode t).length ≤ fuel → decodeFrom lenient fuel place (encode t) = .ok t := by
  induction t with
  | nil => intro fuel place _; simp [encode, decodeFrom]
  | cons c t ih =>
    intro fuel place hf
    have hcons : encode (c :: t) = encodeChar c ++ encode t := rfl
    obtain ⟨b, tail, hb, hfront⟩ := front_encodeChar c (encode t)
    rw [hcons, hb] at hf ⊢
    simp only [List.cons_append, List.length_cons, List.length_append] at hf ⊢
    obtain ⟨fuel, rfl⟩ : ∃ n, fuel = n + 1 := ⟨fuel - 1, by omega⟩
    rw [decodeFrom, hfront]
    simp only [ih fuel _ (by omega)]
    rfl

/-- What was written is read back. -/
theorem decode_encode (t : List Char) : decode (encode t) = .ok t :=
  decodeFrom_encode false t _ _ le_rfl

end FormulaOcr.Encoding.Utf8
