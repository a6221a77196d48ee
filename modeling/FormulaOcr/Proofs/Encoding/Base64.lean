import Mathlib.Tactic
import FormulaOcr.Encoding.Base64

/-! Base64 is read back. Four characters at a time carry three bytes; what is left at the end, one
byte or two, is carried by two characters or three and padded. A reader that stands at the start of
a group gives the bytes back, and a text with any other character than those of the alphabet and
the padding is read by none. -/

namespace FormulaOcr.Encoding.Base64

/-- The characters of texts in base64. -/
def IsData (c : Char) : Prop :=
  c ∈ alphabet ∨ c = '='

theorem value?_getD : ∀ n < 64, value? (alphabet.getD n 'A') = some n := by
  decide

@[simp] theorem value?_letter (n : ℕ) : value? (letter n) = some (n % 64) :=
  value?_getD _ (Nat.mod_lt n (by decide))

theorem mem_of_value? {c : Char} {n : ℕ} (h : value? c = some n) : c ∈ alphabet := by
  by_contra hc
  rw [value?, List.idxOf?_eq_none_iff.2 hc] at h
  exact nomatch h

theorem letter_mem (n : ℕ) : letter n ∈ alphabet :=
  mem_of_value? (value?_letter n)

theorem padding_notMem : '=' ∉ alphabet := by
  decide

theorem letter_ne_padding (n : ℕ) : letter n ≠ '=' := by
  intro h
  exact padding_notMem (h ▸ letter_mem n)

theorem ascii_of_isData {c : Char} (h : IsData c) : c.toNat < 128 := by
  have halphabet : alphabet.all (·.toNat < 128) = true := rfl
  rcases h with h | rfl
  · simpa using List.all_eq_true.1 halphabet c h
  · decide

theorem isData_of_mem_encode {b : Bytes} : ∀ c ∈ encode b, IsData c := by
  fun_induction encode b with
  | case1 a b c rest ih =>
    simp only [List.forall_mem_cons]
    exact ⟨.inl (letter_mem _), .inl (letter_mem _), .inl (letter_mem _), .inl (letter_mem _), ih⟩
  | case2 a b =>
    simp only [List.forall_mem_cons]
    exact ⟨.inl (letter_mem _), .inl (letter_mem _), .inl (letter_mem _), .inr rfl, by simp⟩
  | case3 a =>
    simp only [List.forall_mem_cons]
    exact ⟨.inl (letter_mem _), .inl (letter_mem _), .inr rfl, .inr rfl, by simp⟩
  | case4 => simp

theorem encode_ne_nil {b : Bytes} (h : b ≠ []) : encode b ≠ [] := by
  rcases b with _ | ⟨a, _ | ⟨b, _ | ⟨c, rest⟩⟩⟩
  · exact absurd rfl h
  all_goals simp [encode]

theorem head?_encode (b : Bytes) : (encode b).head? ≠ some '=' := by
  rcases b with _ | ⟨a, _ | ⟨b, _ | ⟨c, rest⟩⟩⟩
  · simp [encode]
  all_goals simp [encode, letter_ne_padding]

/-! Reading. -/

/-- A reader takes a letter as the next data character. -/
theorem decodeFrom_letter (count last pads n : ℕ) (t : List Char) :
    decodeFrom ⟨count, last, pads, false⟩ (letter n :: t) =
      (decodeFrom ⟨count + 1, n % 64, 0, false⟩ t).map (completed count last (n % 64) ++ ·) := by
  rw [decodeFrom, if_neg (letter_ne_padding n), value?_letter]
  rfl

section Completed

variable {count last value : ℕ}

theorem completed_first (h : count % 4 = 0) : completed count last value = [] := by
  simp [completed, h]

theorem completed_second (h : count % 4 = 0) :
    completed (count + 1) last value = [.ofNat (last * 4 + value / 16)] := by
  have hplace : (count + 1) % 4 = 1 := by omega
  simp [completed, hplace]

theorem completed_third (h : count % 4 = 0) :
    completed (count + 2) last value = [.ofNat (last * 16 + value / 4)] := by
  have hplace : (count + 2) % 4 = 2 := by omega
  simp [completed, hplace]

theorem completed_fourth (h : count % 4 = 0) :
    completed (count + 3) last value = [.ofNat (last * 64 + value)] := by
  have hplace : (count + 3) % 4 = 3 := by omega
  simp [completed, hplace]

end Completed

/-! The three bytes of a group, put together again from its four letters. -/

theorem first_byte (a : UInt8) (n : ℕ) (hn : n < 16) :
    UInt8.ofNat (a.toNat / 4 % 64 * 4 + (a.toNat * 16 + n) % 64 / 16) = a := by
  have ha := a.toNat_lt
  have hsame : a.toNat / 4 % 64 * 4 + (a.toNat * 16 + n) % 64 / 16 = a.toNat := by omega
  rw [hsame, UInt8.ofNat_toNat]

theorem second_byte (m : ℕ) (b : UInt8) (n : ℕ) (hn : n < 4) :
    UInt8.ofNat ((m * 16 + b.toNat / 16) % 64 * 16 + (b.toNat * 4 + n) % 64 / 4) = b := by
  have hb := b.toNat_lt
  apply UInt8.toNat_inj.1
  rw [UInt8.toNat_ofNat']
  omega

theorem third_byte (m : ℕ) (c : UInt8) :
    UInt8.ofNat ((m * 4 + c.toNat / 64) % 64 * 64 + c.toNat % 64) = c := by
  have hc := c.toNat_lt
  apply UInt8.toNat_inj.1
  rw [UInt8.toNat_ofNat']
  omega

/-- From the start of a group the reader gives the bytes back. -/
theorem decodeFrom_encode (b : Bytes) {count last pads : ℕ} (hcount : count % 4 = 0) :
    decodeFrom ⟨count, last, pads, false⟩ (encode b) = .ok b := by
  -- group by group; only the last one can be padded
  fun_induction encode b generalizing count last pads with
  | case1 a b c rest ih =>
    have hrest (last : ℕ) : decodeFrom ⟨count + 4, last, 0, false⟩ (encode rest) = .ok rest :=
      ih (by omega)
    have hb : b.toNat / 16 < 16 := by have := b.toNat_lt; omega
    have hc : c.toNat / 64 < 4 := by have := c.toNat_lt; omega
    rw [decodeFrom_letter, decodeFrom_letter, decodeFrom_letter, decodeFrom_letter, hrest,
      completed_first hcount, completed_second hcount, completed_third hcount,
      completed_fourth hcount, first_byte a _ hb, second_byte _ b _ hc, third_byte _ c]
    rfl
  | case2 a b =>
    have hb : b.toNat / 16 < 16 := by have := b.toNat_lt; omega
    have hsecond := second_byte a.toNat b 0 (by decide)
    rw [Nat.add_zero] at hsecond
    have hlast (last : ℕ) : decodeFrom ⟨count + 3, last, 0, false⟩ ['='] = .ok [] := by
      have hplace : (count + 3) % 4 = 3 := by omega
      simp [decodeFrom, hplace]
    rw [decodeFrom_letter, decodeFrom_letter, decodeFrom_letter, hlast, completed_first hcount,
      completed_second hcount, completed_third hcount, first_byte a _ hb, hsecond]
    rfl
  | case3 a =>
    have hfirst := first_byte a 0 (by decide)
    rw [Nat.add_zero] at hfirst
    have hlast (last : ℕ) : decodeFrom ⟨count + 2, last, 0, false⟩ ['=', '='] = .ok [] := by
      have hplace : (count + 2) % 4 = 2 := by omega
      simp [decodeFrom, hplace]
    rw [decodeFrom_letter, decodeFrom_letter, hlast, completed_first hcount,
      completed_second hcount, hfirst]
    rfl
  | case4 => simp [decodeFrom, hcount]

/-- What was encoded is decoded. -/
theorem decode_encode (b : Bytes) : decode (encode b) = .ok b := by
  have hascii : (encode b).any (128 ≤ ·.toNat) = false := by
    rw [List.any_eq_false]
    intro c hc
    have hlt := ascii_of_isData (isData_of_mem_encode c hc)
    simpa using hlt
  rw [decode, hascii, if_neg Bool.false_ne_true, if_neg (head?_encode b),
    decodeFrom_encode b (Nat.zero_mod 4)]

/-- A reader that comes to an end has seen data characters and padding alone. -/
theorem isData_of_decodeFrom {t : List Char} {p : Progress} {b : Bytes}
    (h : decodeFrom p t = .ok b) : ∀ c ∈ t, IsData c := by
  fun_induction decodeFrom p t generalizing b with
  | case1 => simp
  | case2 => simp
  | case3 => simp
  | case4 p rest hplace ih => exact List.forall_mem_cons.2 ⟨.inr rfl, ih h⟩
  | case5 p rest hplace hfull hrest =>
    rw [List.isEmpty_iff.1 hrest]
    exact List.forall_mem_cons.2 ⟨.inr rfl, by simp⟩
  | case6 p rest hplace hfull hrest => exact nomatch h
  | case7 p rest hplace hfull ih => exact List.forall_mem_cons.2 ⟨.inr rfl, ih h⟩
  | case8 p c rest hc hvalue => exact nomatch h
  | case9 p c rest hc v hvalue hpadded => exact nomatch h
  | case10 p c rest hc v hvalue hpadded ih =>
    cases hrest : decodeFrom ⟨p.count + 1, v, 0, p.padded⟩ rest with
    | error f =>
      rw [hrest] at h
      exact nomatch h
    | ok behind => exact List.forall_mem_cons.2 ⟨.inl (mem_of_value? hvalue), ih hrest⟩

theorem isData_of_decode {t : List Char} {b : Bytes} (h : decode t = .ok b) :
    ∀ c ∈ t, IsData c := by
  unfold decode at h
  split_ifs at h
  exact isData_of_decodeFrom h

end FormulaOcr.Encoding.Base64
