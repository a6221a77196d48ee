import Mathlib.Tactic
import FormulaOcr.Number.Binary64

/-! The whole numbers that are too large for a binary floating-point number: those from the middle
between the largest finite number and the power of two above it on. -/

namespace FormulaOcr.Binary64

/-- The first whole number that rounds to an infinity. -/
def overflowThreshold : ℕ := 2 ^ 1024 - 2 ^ 970

theorem exists_quotient (n : ℕ) {d : ℕ} (hd : 0 < d) : ∃ q r, n = q * d + r ∧ r < d :=
  ⟨n / d, n % d, (Nat.div_add_mod' n d).symm, Nat.mod_lt n hd⟩

/-- A number with a remainder is rounded as the remainder compares with a half. -/
theorem roundDiv_add {q r d : ℕ} (hr : r < d) :
    roundDiv (q * d + r) d = if 2 * r < d then q else if d < 2 * r then q + 1 else q + q % 2 := by
  have hd : 0 < d := Nat.zero_lt_of_lt hr
  have hquotient : (q * d + r) / d = q := by
    rw [mul_comm, Nat.mul_add_div hd, Nat.div_eq_of_lt hr, add_zero]
  rw [roundDiv, hquotient, Nat.mul_add_mod_of_lt hr]

/-- A quotient is rounded up to an even number from the half below it on. -/
theorem le_roundDiv_iff {n d k : ℕ} (hd : 0 < d) (hk : Even k) :
    k ≤ roundDiv n d ↔ 2 * (k * d) ≤ 2 * n + d := by
  obtain ⟨m, rfl⟩ := hk
  obtain ⟨q, r, rfl, hr⟩ := exists_quotient n hd
  rw [roundDiv_add hr]
  -- both sides compare the even number with the next whole one
  have hnext : m + m ≤ q + 1 → 2 * ((m + m) * d) ≤ 2 * (q * d) + 2 * d := fun h => by
    have := Nat.mul_le_mul_right d h
    linarith
  have hsame : m + m ≤ q → 2 * ((m + m) * d) ≤ 2 * (q * d) := fun h => by
    have := Nat.mul_le_mul_right d h
    linarith
  have habove : q + 1 < m + m → 2 * (q * d) + 4 * d ≤ 2 * ((m + m) * d) := fun h => by
    have := Nat.mul_le_mul_right d (Nat.succ_le_of_lt h)
    linarith
  have hover : q < m + m → 2 * (q * d) + 2 * d ≤ 2 * ((m + m) * d) := fun h => by
    have := Nat.mul_le_mul_right d (Nat.succ_le_of_lt h)
    linarith
  split_ifs with hbelow hbeyond <;> omega

/-- A magnitude is rounded up to the overflow from half a step below it on, where the steps are
those just below the overflow. -/
theorem overflow_le_iff (units : ℕ) :
    overflow ≤ roundDiv units (spacing units) * spacing units ↔
      2 * 2 ^ 2098 ≤ 2 * units + 2 ^ 2045 := by
  have hspacing : spacing units = 2 ^ (units.log2 + 1 - 53) := rfl
  have hpositive : 0 < spacing units := Nat.two_pow_pos _
  rw [overflow, Nat.pow_eq]
  by_cases hlarge : 2098 ≤ units.log2
  · -- the number is no smaller than the overflow, and its own power of two is met by a step
    have hexponent : 52 + (units.log2 + 1 - 53) = units.log2 := by omega
    have hne : units ≠ 0 := by
      rintro rfl
      simp at hlarge
    have hpower : 2 ^ units.log2 ≤ units := Nat.log2_self_le hne
    have hover : 2 ^ 2098 ≤ 2 ^ units.log2 := Nat.pow_le_pow_right (by decide) hlarge
    have hsteps : 2 ^ 52 * spacing units = 2 ^ units.log2 := by
      rw [hspacing, ← pow_add, hexponent]
    have hrounded : 2 ^ 52 ≤ roundDiv units (spacing units) := by
      rw [le_roundDiv_iff hpositive (by decide), hsteps]
      exact (Nat.mul_le_mul_left 2 hpower).trans (Nat.le_add_right _ _)
    refine iff_of_true (hover.trans ?_) ?_
    · rw [← hsteps]
      exact Nat.mul_le_mul_right _ hrounded
    · exact (Nat.mul_le_mul_left 2 (hover.trans hpower)).trans (Nat.le_add_right _ _)
  · -- so many steps lead to the overflow, and they are an even number
    obtain ⟨count, hexponent, hcount⟩ :
        ∃ count, count + (units.log2 + 1 - 53) = 2098 ∧ count ≠ 0 :=
      ⟨2098 - (units.log2 + 1 - 53), by omega, by omega⟩
    have hsteps : 2 ^ count * spacing units = 2 ^ 2098 := by
      rw [hspacing, ← pow_add, hexponent]
    have heven : Even (2 ^ count) := Nat.even_pow.2 ⟨even_two, hcount⟩
    rw [← hsteps, Nat.mul_le_mul_right_iff hpositive, le_roundDiv_iff hpositive heven, hsteps]
    rcases Nat.lt_or_ge units.log2 2097 with hsmall | hlast
    · have hunits : units < 2 ^ 2097 :=
        Nat.lt_log2_self.trans_le (Nat.pow_le_pow_right (by decide) hsmall)
      have hfewer : units.log2 + 1 - 53 ≤ 2045 := by omega
      have hstep : spacing units ≤ 2 ^ 2045 := by
        rw [hspacing]
        exact Nat.pow_le_pow_right (by decide) hfewer
      have hgap : (2 : ℕ) ^ 2045 ≤ 2 ^ 2097 := Nat.pow_le_pow_right (by decide) (by decide)
      have hdouble : (2 : ℕ) ^ 2098 = 2 * 2 ^ 2097 := pow_succ' 2 2097
      rw [hdouble]
      clear hdouble hsteps
      generalize (2 : ℕ) ^ 2097 = half at *
      generalize (2 : ℕ) ^ 2045 = step at *
      omega
    · have hlog : units.log2 = 2097 := by omega
      rw [hspacing, hlog]

/-- A whole number rounds to an infinity from the threshold on. -/
theorem ofInt_infinity_iff (n : ℤ) :
    (∃ negative, ofInt n = .infinity negative) ↔ overflowThreshold ≤ n.natAbs := by
  have hinfinite : (∃ negative, ofInt n = .infinity negative) ↔
      overflow ≤ roundDiv (n.natAbs * unitsPerOne) (spacing (n.natAbs * unitsPerOne)) *
        spacing (n.natAbs * unitsPerOne) := by
    unfold ofInt ofQuotient
    simp only [Nat.div_one, one_mul]
    split_ifs with hfinite
    · simpa using hfinite
    · simpa using hfinite
  have hunits : 2 * (n.natAbs * unitsPerOne) = n.natAbs * 2 ^ 1075 := by
    rw [unitsPerOne, Nat.pow_eq, pow_succ 2 1074]
    ring
  have hover : (2 : ℕ) * 2 ^ 2098 = 2 ^ 1024 * 2 ^ 1075 := by
    rw [← pow_succ', ← pow_add]
  have hstep : (2 : ℕ) ^ 2045 = 2 ^ 970 * 2 ^ 1075 := by
    rw [← pow_add]
  rw [hinfinite, overflow_le_iff, hunits, hover, hstep, ← add_mul,
    Nat.mul_le_mul_right_iff (Nat.two_pow_pos 1075), overflowThreshold, Nat.sub_le_iff_le_add]

end FormulaOcr.Binary64
