import Mathlib.Tactic
import FormulaOcr.Proofs.Number.Overflow

/-! The magnitudes of the format, and which reals round to one of them: those up to half a step
away on either side, where the step below a power of two is half the step above it. Whatever lies in
that range is rounded back to the magnitude. -/

namespace FormulaOcr.Binary64

variable {n d units : ℕ}

/-! Rounding to whole numbers. -/

/-- The quotient is rounded to a number at most a half away. -/
theorem roundDiv_near (hd : 0 < d) :
    2 * (roundDiv n d * d) ≤ 2 * n + d ∧ 2 * n ≤ 2 * (roundDiv n d * d) + d := by
  obtain ⟨q, r, rfl, hr⟩ := exists_quotient n hd
  rw [roundDiv_add hr]
  split_ifs with hbelow hbeyond
  · omega
  · rw [Nat.add_mul, Nat.one_mul]
    omega
  · rcases Nat.mod_two_eq_zero_or_one q with heven | hodd
    · rw [heven, Nat.add_zero]
      omega
    · rw [hodd, Nat.add_mul, Nat.one_mul]
      omega

/-- A number at most a half away is what the quotient is rounded to, if it is even or really closer
than the half. -/
theorem roundDiv_eq {m : ℕ} (hd : 0 < d) (hlow : 2 * (m * d) ≤ 2 * n + d)
    (hhigh : 2 * n ≤ 2 * (m * d) + d)
    (htie : 2 * (m * d) = 2 * n + d ∨ 2 * n = 2 * (m * d) + d → Even m) : roundDiv n d = m := by
  obtain ⟨q, r, rfl, hr⟩ := exists_quotient n hd
  rw [roundDiv_add hr]
  -- only the two neighbours of the quotient are that close
  have habove : q ≤ m := by
    by_contra hlt
    have := Nat.mul_le_mul_right d (Nat.succ_le_of_lt (Nat.lt_of_not_le hlt))
    rw [Nat.succ_mul] at this
    omega
  have hbelow : m ≤ q + 1 := by
    by_contra hlt
    have := Nat.mul_le_mul_right d (Nat.succ_le_of_lt (Nat.lt_of_not_le hlt))
    rw [Nat.succ_mul, Nat.add_mul, Nat.one_mul] at this
    omega
  rcases (by omega : m = q ∨ m = q + 1) with rfl | rfl
  · split_ifs with hless hmore
    · rfl
    · omega
    · have heven := htie (.inr (by omega))
      rw [Nat.even_iff.1 heven, Nat.add_zero]
  · rw [Nat.add_mul, Nat.one_mul] at hlow hhigh htie
    split_ifs with hless hmore
    · omega
    · rfl
    · have heven := htie (.inl (by omega))
      have hodd : q % 2 = 1 := by
        have := Nat.even_iff.1 heven
        omega
      rw [hodd]

/-! The steps of the format. -/

theorem spacing_eq (units : ℕ) : spacing units = 2 ^ (units.log2 + 1 - 53) := rfl

theorem spacing_pos (units : ℕ) : 0 < spacing units := Nat.two_pow_pos _

theorem spacing_of_log2 {k : ℕ} (hlow : 2 ^ k ≤ n) (hhigh : n < 2 ^ (k + 1)) :
    spacing n = 2 ^ (k + 1 - 53) := by
  have hne : n ≠ 0 := ((Nat.two_pow_pos k).trans_le hlow).ne'
  rw [spacing_eq, (Nat.log2_eq_iff hne).2 ⟨hlow, hhigh⟩]

/-- Numbers below a power of two keep to the steps just below it. -/
theorem spacing_dvd_of_lt {k : ℕ} (h : units < 2 ^ (k + 1)) :
    spacing units ∣ 2 ^ (k + 1 - 53) := by
  rcases Nat.eq_zero_or_pos units with rfl | hpos
  · exact one_dvd _
  · have hlog : units.log2 < k + 1 := (Nat.log2_lt hpos.ne').2 h
    exact pow_dvd_pow 2 (by omega)

/-- A magnitude of the format. -/
structure Representable (units : ℕ) : Prop where
  multiple : spacing units ∣ units
  finite : units < overflow

theorem representable_zero : Representable 0 where
  multiple := dvd_zero _
  finite := Nat.pow_pos Nat.two_pos

/-- Whatever is rounded to a finite number is rounded to a magnitude of the format. -/
theorem representable_ofQuotient {negative sign : Bool} (hd : 0 < d)
    (h : ofQuotient negative n d = .finite sign units) : Representable units := by
  unfold ofQuotient at h
  dsimp only at h
  split_ifs at h with hfinite
  obtain ⟨-, rfl⟩ := Binary64.finite.inj h
  refine ⟨?_, hfinite⟩
  set k := (n / d).log2
  set step := spacing (n / d)
  have hstep : step = 2 ^ (k + 1 - 53) := rfl
  -- the power of two above the quotient is a number of steps, so rounding does not go beyond it
  obtain ⟨count, hcount⟩ : ∃ count, 2 ^ (k + 1) = count * step :=
    ⟨2 ^ (k + 1 - (k + 1 - 53)), by rw [hstep, ← pow_add]; congr 1; omega⟩
  have hless : n < count * (d * step) := by
    have hlt : n / d < 2 ^ (k + 1) := Nat.lt_log2_self
    rw [Nat.div_lt_iff_lt_mul hd, hcount] at hlt
    calc n < count * step * d := hlt
      _ = count * (d * step) := by ring
  have hsteps : 0 < d * step := Nat.mul_pos hd (spacing_pos _)
  have hrounded : roundDiv n (d * step) ≤ count := by
    by_contra hmore
    have hnear := (roundDiv_near (n := n) hsteps).1
    have := Nat.mul_le_mul_right (d * step) (Nat.succ_le_of_lt (Nat.lt_of_not_le hmore))
    rw [Nat.succ_mul] at this
    omega
  rcases Nat.eq_or_lt_of_le (Nat.mul_le_mul_right step hrounded) with htop | hbelow
  · rw [htop, ← hcount, spacing_of_log2 le_rfl (Nat.pow_lt_pow_right (by decide) (by omega))]
    exact pow_dvd_pow 2 (by omega)
  · rw [← hcount] at hbelow
    exact (spacing_dvd_of_lt hbelow).trans (hstep ▸ Nat.dvd_mul_left _ _)

theorem representable_ofDecimal {negative sign : Bool} {digits : ℕ} {exponent : ℤ}
    (h : ofDecimal negative digits exponent = .finite sign units) : Representable units := by
  unfold ofDecimal at h
  dsimp only at h
  split_ifs at h
  · obtain ⟨-, rfl⟩ := Binary64.finite.inj h
    exact representable_zero
  · exact representable_ofQuotient Nat.one_pos h
  · exact representable_ofQuotient (Nat.pow_pos (by decide)) h

/-! What rounds to a magnitude. -/

/-- The least real that can round to a magnitude, in quarters of a unit. -/
def lowest (units : ℕ) : ℕ :=
  4 * units -
    (if units = Nat.pow 2 units.log2 && 1 < spacing units then spacing units else 2 * spacing units)

/-- The greatest real that can round to a magnitude, in quarters of a unit. -/
def highest (units : ℕ) : ℕ :=
  4 * units + 2 * spacing units

/-- A number of units that rounds to a magnitude: one between the two bounds, or one of the bounds
if the last bit of the magnitude is zero. -/
def RoundsTo (units : ℕ) (x : ℚ) : Prop :=
  (lowest units < 4 * x ∧ 4 * x < highest units) ∨
    (Even (units / spacing units) ∧ (4 * x = lowest units ∨ 4 * x = highest units))

theorem lowest_le_highest (units : ℕ) : lowest units ≤ highest units :=
  (Nat.sub_le _ _).trans (Nat.le_add_right _ _)

/-- The lower bound is a half step away, or a quarter of one at a power of two. -/
theorem lowest_cases (hpos : 0 < units) (h : spacing units ∣ units) :
    lowest units + 2 * spacing units = 4 * units ∧
        ¬ (units = 2 ^ units.log2 ∧ 1 < spacing units) ∨
      lowest units + spacing units = 4 * units ∧ units = 2 ^ units.log2 ∧ 1 < spacing units := by
  have hle : spacing units ≤ units := Nat.le_of_dvd hpos h
  unfold lowest
  split_ifs with hpower
  all_goals rw [Bool.and_eq_true, decide_eq_true_eq, decide_eq_true_eq] at hpower
  · exact .inr ⟨by omega, hpower⟩
  · exact .inl ⟨by omega, hpower⟩

/-- The bounds of a quotient, in whole numbers. -/
theorem RoundsTo.bounds (hd : 0 < d) (h : RoundsTo units (n / d)) :
    lowest units * d ≤ 4 * n ∧ 4 * n ≤ highest units * d ∧
      (lowest units * d = 4 * n ∨ 4 * n = highest units * d → Even (units / spacing units)) := by
  have hd' : (0 : ℚ) < d := by exact_mod_cast hd
  have hquotient : 4 * ((n : ℚ) / d) = (4 * n) / d := by ring
  have hbounds : lowest units * d ≤ highest units * d :=
    Nat.mul_le_mul_right d (lowest_le_highest units)
  rw [RoundsTo, hquotient] at h
  rcases h with ⟨hlow, hhigh⟩ | ⟨heven, hlow | hhigh⟩
  · rw [lt_div_iff₀ hd'] at hlow
    rw [div_lt_iff₀ hd'] at hhigh
    norm_cast at hlow hhigh
    exact ⟨hlow.le, hhigh.le, fun h => by omega⟩
  · rw [div_eq_iff hd'.ne'] at hlow
    norm_cast at hlow
    exact ⟨hlow.ge, by omega, fun _ => heven⟩
  · rw [div_eq_iff hd'.ne'] at hhigh
    norm_cast at hhigh
    exact ⟨by omega, hhigh.le, fun _ => heven⟩

theorem ofQuotient_of_spacing (hunits : Representable units) {step m : ℕ}
    (hstep : spacing (n / d) = step) (hm : roundDiv n (d * step) = m) (hm' : m * step = units)
    (negative : Bool) : ofQuotient negative n d = .finite negative units := by
  unfold ofQuotient
  simp only [hstep, hm, hm', if_pos hunits.finite]

/-- If the quotient has the steps of the magnitude, then rounding in these steps leads there. -/
theorem ofQuotient_of_same (hunits : Representable units) (hpos : 0 < units) (hd : 0 < d)
    (h : RoundsTo units (n / d)) (hsame : spacing (n / d) = spacing units) (negative : Bool) :
    ofQuotient negative n d = .finite negative units := by
  obtain ⟨hlow, hhigh, htie⟩ := h.bounds hd
  have hcases := lowest_cases hpos hunits.multiple
  have hsteps : 0 < d * spacing units := Nat.mul_pos hd (spacing_pos units)
  obtain ⟨m, hm⟩ := hunits.multiple
  have hlast : units / spacing units = m :=
    Nat.div_eq_of_eq_mul_right (spacing_pos units) hm
  have hprod : units * d = m * (d * spacing units) := by
    conv_lhs => rw [hm]
    ring
  have hmore : highest units * d = 4 * (units * d) + 2 * (d * spacing units) := by
    rw [highest]
    ring
  have hless : lowest units * d + 2 * (d * spacing units) = 4 * (units * d) ∨
      lowest units * d + d * spacing units = 4 * (units * d) := by
    rcases hcases with ⟨hless, -⟩ | ⟨hless, -⟩
    · left
      calc lowest units * d + 2 * (d * spacing units)
          = (lowest units + 2 * spacing units) * d := by ring
        _ = 4 * (units * d) := by rw [hless, mul_assoc]
    · right
      calc lowest units * d + d * spacing units = (lowest units + spacing units) * d := by ring
        _ = 4 * (units * d) := by rw [hless, mul_assoc]
  rw [hlast, hmore] at htie
  refine ofQuotient_of_spacing hunits hsame (roundDiv_eq (m := m) hsteps ?_ ?_ ?_)
    (by rw [mul_comm, ← hm]) negative
  · omega
  · omega
  · rintro (hdown | hup)
    · exact htie (by omega)
    · exact htie (by omega)

/-- Steps divide the power of two at or below their magnitude. -/
theorem spacing_dvd_power (units : ℕ) : spacing units ∣ 2 ^ units.log2 :=
  pow_dvd_pow 2 (by omega)

/-- From the power of two of a magnitude on, a quotient that rounds to it has its steps. -/
theorem spacing_of_above (hunits : Representable units) (hd : 0 < d) (h : RoundsTo units (n / d))
    (hbig : 2 ^ units.log2 ≤ n / d) : spacing (n / d) = spacing units := by
  have habove : units < 2 * 2 ^ units.log2 := by
    rw [← pow_succ']
    exact Nat.lt_log2_self
  -- the power of two above the magnitude is a step above it or more, so the quotient is below it
  have hnext : units + spacing units ≤ 2 * 2 ^ units.log2 :=
    Nat.le_of_lt_add_of_dvd (by omega) (hunits.multiple.add dvd_rfl)
      ((spacing_dvd_power units).mul_left 2)
  have hless : n < 2 ^ (units.log2 + 1) * d := by
    obtain ⟨-, hhigh, -⟩ := h.bounds hd
    have := Nat.mul_le_mul_right d hnext
    have := Nat.mul_pos (spacing_pos units) hd
    rw [highest] at hhigh
    rw [pow_succ']
    linarith
  exact spacing_of_log2 hbig ((Nat.div_lt_iff_lt_mul hd).2 hless)

/-- A quotient below the power of two of a magnitude rounds to it only if it is this power. -/
theorem eq_power_of_below (hunits : Representable units) (hpos : 0 < units) (hd : 0 < d)
    (h : RoundsTo units (n / d)) (hsmall : n / d < 2 ^ units.log2) : units = 2 ^ units.log2 := by
  have hcases := lowest_cases hpos hunits.multiple
  have hless : lowest units < 4 * 2 ^ units.log2 := by
    refine lt_of_mul_lt_mul_right (a := d) ?_ (Nat.zero_le _)
    rw [Nat.div_lt_iff_lt_mul hd] at hsmall
    calc lowest units * d ≤ 4 * n := (h.bounds hd).1
      _ < 4 * 2 ^ units.log2 * d := by linarith
  refine le_antisymm (Nat.le_of_lt_add_of_dvd ?_ hunits.multiple (spacing_dvd_power units))
    (Nat.log2_self_le hpos.ne')
  have := spacing_pos units
  omega

/-- Where the steps are as fine as they get, they are so below a power of two too. -/
theorem spacing_of_finest (hfine : spacing units = 1) (hsmall : n / d < 2 ^ units.log2) :
    spacing (n / d) = spacing units := by
  have hless : n / d < 2 ^ (units.log2 + 1) :=
    hsmall.trans (Nat.pow_lt_pow_right (by decide) (Nat.lt_succ_self _))
  have hdvd : spacing (n / d) ∣ spacing units := spacing_dvd_of_lt hless
  rw [hfine, Nat.dvd_one] at hdvd
  rw [hdvd, hfine]

/-- Below a power of two with coarser steps, they are half as long; the bound there is a half of
such a step away from the power, so rounding leads to it. -/
theorem ofQuotient_of_halved (hunits : Representable units) (hpos : 0 < units) (hd : 0 < d)
    (hpower : units = 2 ^ units.log2) (hcoarse : 1 < spacing units)
    (hquarter : lowest units + spacing units = 4 * units) (hlow : lowest units * d ≤ 4 * n)
    (hsmall : n < units * d) (negative : Bool) :
    ofQuotient negative n d = .finite negative units := by
  obtain ⟨k, hk⟩ : ∃ k, units.log2 = k + 53 := by
    refine ⟨units.log2 - 53, ?_⟩
    rw [spacing_eq] at hcoarse
    have := (Nat.one_lt_two_pow_iff).1 hcoarse
    omega
  have hhalf : spacing units = 2 * 2 ^ k := by
    have hexponent : units.log2 + 1 - 53 = k + 1 := by omega
    rw [spacing_eq, hexponent, pow_succ']
  have htwice : units = 2 * 2 ^ (k + 52) := by rw [← pow_succ', hpower, hk]
  have hquarters : 4 * (units * d) = lowest units * d + 2 * (d * 2 ^ k) := by
    rw [← mul_assoc, ← hquarter, hhalf]
    ring
  have hbig : 2 ^ (k + 52) * d ≤ n := by
    have hle : spacing units * d ≤ units * d :=
      Nat.mul_le_mul_right d (Nat.le_of_dvd hpos hunits.multiple)
    have hunits' : units * d = 2 * (2 ^ (k + 52) * d) := by rw [← mul_assoc, ← htwice]
    have hspacing : spacing units * d = 2 * (d * 2 ^ k) := by
      rw [hhalf]
      ring
    omega
  have hfine : spacing (n / d) = 2 ^ k := by
    refine spacing_of_log2 ((Nat.le_div_iff_mul_le hd).2 hbig) ?_
    rw [Nat.div_lt_iff_lt_mul hd]
    exact hsmall.trans_eq (by rw [pow_succ', ← htwice])
  obtain ⟨m, hm⟩ := hunits.multiple
  rw [hhalf] at hm
  have hprod : units * d = 2 * m * (d * 2 ^ k) := by
    conv_lhs => rw [hm]
    ring
  refine ofQuotient_of_spacing hunits hfine (roundDiv_eq (m := 2 * m)
    (Nat.mul_pos hd (Nat.two_pow_pos k)) ?_ ?_ fun _ => even_two_mul m) ?_ negative
  · omega
  · omega
  · rw [hm]
    ring

/-- What rounds to a magnitude is rounded to it. -/
theorem ofQuotient_of_roundsTo (hunits : Representable units) (hpos : 0 < units) (hd : 0 < d)
    (h : RoundsTo units (n / d)) (negative : Bool) :
    ofQuotient negative n d = .finite negative units := by
  have hsame := ofQuotient_of_same hunits hpos hd h
  rcases le_or_gt (2 ^ units.log2) (n / d) with hbig | hsmall
  · exact hsame (spacing_of_above hunits hd h hbig) negative
  · have hpower := eq_power_of_below hunits hpos hd h hsmall
    rcases lowest_cases hpos hunits.multiple with ⟨-, hregular⟩ | ⟨hquarter, -, hcoarse⟩
    · have hfinest : spacing units = 1 :=
        le_antisymm (Nat.le_of_not_lt fun hcoarse => hregular ⟨hpower, hcoarse⟩) (spacing_pos units)
      exact hsame (spacing_of_finest hfinest hsmall) negative
    · have hbelow : n < units * d := by
        rwa [← hpower, Nat.div_lt_iff_lt_mul hd] at hsmall
      exact ofQuotient_of_halved hunits hpos hd hpower hcoarse hquarter (h.bounds hd).1 hbelow
        negative

/-! Reading decimals. -/

section Decimals

variable {digits : ℕ} {exponent : ℤ}

/-- A power of ten as its exponent is split by its sign. -/
theorem ten_zpow_of_nonneg {e : ℤ} (he : 0 ≤ e) : (10 : ℚ) ^ e = (Nat.pow 10 e.toNat : ℕ) := by
  rw [Nat.pow_eq, Nat.cast_pow, ← zpow_natCast, Int.toNat_of_nonneg he]
  rfl

theorem ten_zpow_of_neg {e : ℤ} (he : e < 0) : (10 : ℚ) ^ e = 1 / (Nat.pow 10 (-e).toNat : ℕ) := by
  rw [← ten_zpow_of_nonneg (by omega), zpow_neg, one_div, inv_inv]

/-- The digits of a number tell its size. -/
theorem digits_size (hdigits : 0 < digits) :
    (10 : ℚ) ^ ((Nat.toDigits 10 digits).length - 1 : ℤ) ≤ digits ∧
      (digits : ℚ) < 10 ^ ((Nat.toDigits 10 digits).length : ℤ) := by
  have hcount : 0 < (Nat.toDigits 10 digits).length :=
    List.length_pos_iff.2 Nat.toDigits_ne_nil
  generalize hlength : (Nat.toDigits 10 digits).length = length at hcount
  obtain ⟨k, rfl⟩ : ∃ k, length = k + 1 := ⟨length - 1, by omega⟩
  have hhigh : digits < 10 ^ (k + 1) :=
    (Nat.length_toDigits_le_iff (by decide) hcount).1 hlength.le
  have hlow : 10 ^ k ≤ digits := by
    rcases Nat.eq_zero_or_pos k with rfl | hk
    · exact hdigits
    · by_contra hless
      have := (Nat.length_toDigits_le_iff (b := 10) (by decide) hk).2 (Nat.lt_of_not_le hless)
      omega
  constructor
  · rw [Nat.cast_succ, add_sub_cancel_right, zpow_natCast]
    exact_mod_cast hlow
  · rw [zpow_natCast]
    exact_mod_cast hhigh

theorem unitsPerOne_pos : (0 : ℚ) < unitsPerOne := by
  have hpos : 0 < unitsPerOne := Nat.pow_pos Nat.two_pos
  exact_mod_cast hpos

theorem overflow_eq : overflow = 2 ^ 1024 * unitsPerOne := by
  rw [overflow, unitsPerOne, Nat.pow_eq, Nat.pow_eq, ← pow_add]

/-- What rounds to a magnitude is neither too small for the format nor too large. -/
theorem RoundsTo.size {x : ℚ} (hunits : Representable units) (hpos : 0 < units)
    (h : RoundsTo units x) : 2 ≤ 4 * x ∧ 4 * x ≤ 6 * overflow := by
  have hle : spacing units ≤ units := Nat.le_of_dvd hpos hunits.multiple
  have hlow : 2 ≤ lowest units := by
    have hcases := lowest_cases hpos hunits.multiple
    omega
  have hhigh : highest units ≤ 6 * overflow := by
    have hfinite := hunits.finite
    rw [highest]
    omega
  have hlow' : (2 : ℚ) ≤ lowest units := by exact_mod_cast hlow
  have hhigh' : (highest units : ℚ) ≤ 6 * overflow := by exact_mod_cast hhigh
  have hbounds : (lowest units : ℚ) ≤ highest units := by exact_mod_cast lowest_le_highest units
  rcases h with ⟨h, h'⟩ | ⟨-, h | h⟩
  · exact ⟨hlow'.trans h.le, h'.le.trans hhigh'⟩
  · exact ⟨hlow'.trans h.ge, by linarith⟩
  · exact ⟨by linarith, h.le.trans hhigh'⟩

/-- A decimal that rounds to a magnitude has its first digit where the format has numbers. -/
theorem top_of_roundsTo (hunits : Representable units) (hpos : 0 < units) (hdigits : 0 < digits)
    (h : RoundsTo units (digits * 10 ^ exponent * unitsPerOne)) :
    -330 ≤ (Nat.toDigits 10 digits).length + exponent ∧
      (Nat.toDigits 10 digits).length + exponent ≤ 310 := by
  obtain ⟨hlow, hhigh⟩ := h.size hunits hpos
  obtain ⟨hfirst, hnext⟩ := digits_size hdigits
  have hone := unitsPerOne_pos
  have hpower : (0 : ℚ) < 10 ^ exponent := zpow_pos (by norm_num) _
  generalize (Nat.toDigits 10 digits).length = length at hfirst hnext ⊢
  constructor
  · by_contra hsmall
    have hless : (digits : ℚ) * 10 ^ exponent ≤ (10 ^ (331 : ℤ))⁻¹ := by
      calc (digits : ℚ) * 10 ^ exponent ≤ 10 ^ (length : ℤ) * 10 ^ exponent :=
            mul_le_mul_of_nonneg_right hnext.le hpower.le
        _ = 10 ^ (length + exponent) := (zpow_add₀ (by norm_num) _ _).symm
        _ ≤ 10 ^ (-331 : ℤ) := zpow_le_zpow_right₀ (by norm_num) (by omega)
        _ = (10 ^ (331 : ℤ))⁻¹ := zpow_neg _ _
    have hunit : 2 * unitsPerOne < 10 ^ 331 := by decide +kernel
    have hunit' : 2 * (unitsPerOne : ℚ) < 10 ^ (331 : ℤ) := by exact_mod_cast hunit
    have hscale : (0 : ℚ) < 10 ^ (331 : ℤ) := zpow_pos (by norm_num) _
    generalize (10 : ℚ) ^ (331 : ℤ) = scale at *
    generalize (digits : ℚ) * 10 ^ exponent = v at *
    rw [← one_div, le_div_iff₀ hscale] at hless
    have := mul_le_mul_of_nonneg_right hlow hscale.le
    have := mul_le_mul_of_nonneg_right hless hone.le
    linarith
  · by_contra hlarge
    have hmore : (10 : ℚ) ^ (310 : ℤ) ≤ digits * 10 ^ exponent := by
      calc (10 : ℚ) ^ (310 : ℤ) ≤ 10 ^ (length - 1 + exponent) :=
            zpow_le_zpow_right₀ (by norm_num) (by omega)
        _ = 10 ^ (length - 1 : ℤ) * 10 ^ exponent := zpow_add₀ (by norm_num) _ _
        _ ≤ digits * 10 ^ exponent := mul_le_mul_of_nonneg_right hfirst hpower.le
    have hmost : 6 * 2 ^ 1024 < 4 * 10 ^ 310 := by decide +kernel
    have hmost' : (6 : ℚ) * 2 ^ 1024 < 4 * 10 ^ (310 : ℤ) := by exact_mod_cast hmost
    rw [overflow_eq, Nat.cast_mul, Nat.cast_pow, Nat.cast_ofNat] at hhigh
    generalize (10 : ℚ) ^ (310 : ℤ) = least at *
    generalize (2 : ℚ) ^ 1024 = most at *
    generalize (digits : ℚ) * 10 ^ exponent = v at *
    have := mul_lt_mul_of_pos_right hmost' hone
    have := mul_le_mul_of_nonneg_right hmore hone.le
    linarith

/-- A decimal that rounds to a magnitude is read as the magnitude. -/
theorem ofDecimal_of_roundsTo (hunits : Representable units) (hpos : 0 < units)
    (h : RoundsTo units (digits * 10 ^ exponent * unitsPerOne)) (negative : Bool) :
    ofDecimal negative digits exponent = .finite negative units := by
  have hdigits : 0 < digits := by
    rw [Nat.pos_iff_ne_zero]
    rintro rfl
    have hlow := (h.size hunits hpos).1
    rw [Nat.cast_zero, zero_mul, zero_mul, mul_zero] at hlow
    exact absurd hlow (by norm_num)
  obtain ⟨hlow, hhigh⟩ := top_of_roundsTo hunits hpos hdigits h
  unfold ofDecimal
  dsimp only
  have hnear : ¬ (digits = 0 || (Nat.toDigits 10 digits).length + exponent < -330) = true := by
    simp only [Bool.or_eq_true, decide_eq_true_eq]
    omega
  rw [if_neg hnear, if_neg (by omega)]
  split_ifs with hsign
  · refine ofQuotient_of_roundsTo hunits hpos Nat.one_pos ?_ negative
    rw [ten_zpow_of_nonneg hsign] at h
    rwa [Nat.cast_one, div_one, Nat.cast_mul, Nat.cast_mul]
  · refine ofQuotient_of_roundsTo hunits hpos (Nat.pow_pos (by decide)) ?_ negative
    rw [ten_zpow_of_neg (by omega)] at h
    rw [Nat.cast_mul, ← mul_one_div, mul_right_comm]
    exact h

end Decimals

end FormulaOcr.Binary64
