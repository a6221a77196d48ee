import Mathlib.Data.List.DropRight
import FormulaOcr.Number.Decimal
import FormulaOcr.Proofs.Json.Numbers
import FormulaOcr.Proofs.Number.Rounding

/-! The shortest decimal of a number rounds to that number: the digits that are tried are kept only
if they do, and with seventeen of them the nearest decimal is always close enough. -/

namespace FormulaOcr.Binary64

variable {units count : ℕ} {point : ℤ}

/-! The values of decimals. -/

theorem natOfDigits_append (a b : List Char) :
    Number.natOfDigits (a ++ b) = Number.natOfDigits a * 10 ^ b.length + Number.natOfDigits b := by
  induction b using List.reverseRecOn with
  | nil => simp [Number.natOfDigits]
  | append_singleton b c ih =>
    have hlast (t : List Char) :
        Number.natOfDigits (t ++ [c]) = Number.natOfDigits t * 10 + Number.digitNat c := by
      simp [Number.natOfDigits]
    rw [← List.append_assoc, hlast, hlast, ih, List.length_append, List.length_singleton, pow_succ]
    ring

theorem natOfDigits_zeros (n : ℕ) : Number.natOfDigits (List.replicate n '0') = 0 := by
  induction n with
  | zero => rfl
  | succ n ih =>
    rw [List.replicate_succ', natOfDigits_append, ih]
    rfl

/-- The number that a decimal is. -/
def Decimal.value (d : Decimal) : ℚ :=
  Number.natOfDigits d.digits * 10 ^ (d.point - d.digits.length)

/-- Only zeros are taken off at the end of a number. -/
theorem toDigits_significant (n : ℕ) :
    ∃ zeros, Nat.toDigits 10 n = significant n ++ List.replicate zeros '0' := by
  refine ⟨((Nat.toDigits 10 n).rtakeWhile (· == '0')).length, ?_⟩
  have hzeros : (Nat.toDigits 10 n).rtakeWhile (· == '0') =
      List.replicate ((Nat.toDigits 10 n).rtakeWhile (· == '0')).length '0' :=
    List.eq_replicate_iff.2 ⟨rfl, fun c hc => by simpa using List.mem_rtakeWhile_imp hc⟩
  rw [← hzeros]
  exact List.rdropWhile_append_rtakeWhile.symm

/-- So many digits behind a place are so many steps of that place. -/
theorem value_significant (k : ℕ) (place : ℤ) :
    Decimal.value ⟨significant k, place + (Nat.toDigits 10 k).length⟩ = k * 10 ^ place := by
  obtain ⟨zeros, hdigits⟩ := toDigits_significant k
  have hk : k = Number.natOfDigits (significant k) * 10 ^ zeros := by
    conv_lhs => rw [← Json.natOfDigits_toDigits k, hdigits, natOfDigits_append, natOfDigits_zeros,
      List.length_replicate, Nat.add_zero]
  have hplace : place + (Nat.toDigits 10 k).length - (significant k).length = zeros + place := by
    rw [hdigits, List.length_append, List.length_replicate]
    push_cast
    ring
  rw [Decimal.value]
  dsimp only
  rw [hplace, zpow_add₀ (by norm_num), zpow_natCast, ← mul_assoc]
  conv_rhs => rw [hk]
  push_cast
  rfl

/-! The digits that are tried. -/

/-- The digits of a count of steps, the last of which has the given place. -/
def Decimal.ofSteps (point : ℤ) (count k : ℕ) : Decimal :=
  ⟨significant k, point + (Nat.toDigits 10 k).length - count⟩

theorem value_ofSteps (point : ℤ) (count k : ℕ) :
    (Decimal.ofSteps point count k).value = k * 10 ^ (point - count) := by
  rw [← value_significant, Decimal.ofSteps]
  congr 2
  ring

/-- Whether a number of quarters on a scale lies in the range of a magnitude. -/
theorem inside_iff {q scale : ℕ} {x : ℚ} (hscale : 0 < scale)
    (hx : 4 * x * scale = q) :
    ((decide (lowest units * scale < q) && decide (q < highest units * scale)) ||
      (units / spacing units % 2 == 0 &&
        (q == lowest units * scale || q == highest units * scale))) = true ↔
      RoundsTo units x := by
  have hscale' : (0 : ℚ) < scale := by exact_mod_cast hscale
  have hlow : lowest units * scale < q ↔ (lowest units : ℚ) < 4 * x := by
    rw [← mul_lt_mul_iff_left₀ hscale', hx]
    norm_cast
  have hhigh : q < highest units * scale ↔ 4 * x < highest units := by
    rw [← mul_lt_mul_iff_left₀ hscale', hx]
    norm_cast
  have heq (bound : ℕ) : q = bound * scale ↔ 4 * x = bound := by
    rw [← mul_left_inj' hscale'.ne', hx]
    norm_cast
  simp only [RoundsTo, Bool.or_eq_true, Bool.and_eq_true, decide_eq_true_eq, beq_iff_eq, hlow,
    hhigh, heq, Nat.even_iff]

/-- The candidates are the steps next to the number, and one is taken if it rounds to the number. -/
theorem nearestWithin_spec (units : ℕ) (point : ℤ) (count : ℕ) :
    ∃ (inside : ℕ → Bool) (n d : ℕ),
      (∀ k, inside k = true ↔ RoundsTo units (k * 10 ^ (point - count) * unitsPerOne)) ∧
      0 < d ∧ (n : ℚ) / d * (10 ^ (point - count) * unitsPerOne) = units ∧
      nearestWithin units point count =
        if inside (roundDiv n d) && roundDiv n d != 0 then
          some (.ofSteps point count (roundDiv n d))
        else if inside (n / d) && n / d != 0 then some (.ofSteps point count (n / d))
        else if inside (n / d + 1) then some (.ofSteps point count (n / d + 1))
        else none := by
  have hone := unitsPerOne_pos
  have hone' : 0 < unitsPerOne := by exact_mod_cast hone
  by_cases hplace : point - count < 0
  · -- the steps are fractions, and the bounds are counted in these
    have hswap : -(point - count) = (count : ℤ) - point := by ring
    have hscale : 0 < Nat.pow 10 (count - point).toNat := Nat.pow_pos (by decide)
    have hten : (10 : ℚ) ^ (point - count) = 1 / (Nat.pow 10 (count - point).toNat : ℕ) := by
      rw [ten_zpow_of_neg hplace, hswap]
    have hscaled : scaled units unitsPerOne (point - count) =
        (units * Nat.pow 10 (count - point).toNat, unitsPerOne) := by
      rw [scaled, if_neg (by omega), hswap]
    refine ⟨_, units * Nat.pow 10 (count - point).toNat, unitsPerOne,
      fun k => inside_iff (q := k * unitsPerOne * 4) hscale ?_, hone', ?_, ?_⟩
    · rw [hten]
      generalize Nat.pow 10 (count - point).toNat = scale at hscale
      push_cast
      field_simp
    · rw [hten]
      generalize Nat.pow 10 (count - point).toNat = scale at hscale
      push_cast
      field_simp
    · simp only [nearestWithin, hscaled, if_pos hplace]
      rfl
  · have hscale : 0 < Nat.pow 10 (point - count).toNat := Nat.pow_pos (by decide)
    have hten := ten_zpow_of_nonneg (e := point - count) (by omega)
    have hscaled : scaled units unitsPerOne (point - count) =
        (units, unitsPerOne * Nat.pow 10 (point - count).toNat) := by
      rw [scaled, if_pos (by omega)]
    refine ⟨_, units, unitsPerOne * Nat.pow 10 (point - count).toNat,
      fun k => inside_iff (q := k * Nat.pow 10 (point - count).toNat * unitsPerOne * 4)
        Nat.one_pos ?_, Nat.mul_pos hone' hscale, ?_, ?_⟩
    · rw [hten]
      push_cast
      ring
    · rw [hten]
      generalize Nat.pow 10 (point - count).toNat = scale at hscale
      push_cast
      field_simp
    · simp only [nearestWithin, hscaled, if_neg hplace]
      rfl

/-- Digits are kept only if they round to the number. -/
theorem roundsTo_of_nearestWithin {d : Decimal} (h : nearestWithin units point count = some d) :
    RoundsTo units (d.value * unitsPerOne) := by
  obtain ⟨inside, n, den, hinside, -, -, heq⟩ := nearestWithin_spec units point count
  rw [heq] at h
  have hkept {k : ℕ} (hk : inside k = true) (hd : Decimal.ofSteps point count k = d) :
      RoundsTo units (d.value * unitsPerOne) := by
    rw [← hd, value_ofSteps]
    exact (hinside k).1 hk
  split_ifs at h with hnearest hdown hup
  · exact hkept (Bool.and_eq_true_iff.1 hnearest).1 (Option.some.inj h)
  · exact hkept (Bool.and_eq_true_iff.1 hdown).1 (Option.some.inj h)
  · exact hkept hup (Option.some.inj h)

/-! With seventeen digits there is always a candidate. -/

/-- A number has 53 bits in its own steps. -/
theorem lt_spacing (units : ℕ) : units < 2 ^ 53 * spacing units := by
  calc units < 2 ^ (units.log2 + 1) := Nat.lt_log2_self
    _ ≤ 2 ^ (53 + (units.log2 + 1 - 53)) := Nat.pow_le_pow_right (by decide) (by omega)
    _ = 2 ^ 53 * spacing units := pow_add _ _ _

theorem eq_spacing (hpower : units = 2 ^ units.log2) (hcoarse : 1 < spacing units) :
    units = 2 ^ 52 * spacing units := by
  have hlog : 0 < units.log2 + 1 - 53 := Nat.one_lt_two_pow_iff.1 hcoarse |>.bot_lt
  have hexponent : 52 + (units.log2 + 1 - 53) = units.log2 := by omega
  rw [spacing_eq, ← pow_add, hexponent]
  exact hpower

/-- What is at most half of so fine a step away rounds to the number. -/
theorem roundsTo_of_near (hunits : Representable units) (hpos : 0 < units) {x step : ℚ}
    (hstep : 10 ^ 16 * step ≤ units) (hlow : 2 * units ≤ 2 * x + step)
    (hhigh : 2 * x ≤ 2 * units + step) : RoundsTo units x := by
  have hbits : (units : ℚ) < 2 ^ 53 * spacing units := by exact_mod_cast lt_spacing units
  have hhighest : (highest units : ℚ) = 4 * units + 2 * spacing units := by
    rw [highest]
    push_cast
    rfl
  left
  refine ⟨?_, by linarith⟩
  rcases lowest_cases hpos hunits.multiple with ⟨hlowest, -⟩ | ⟨hlowest, hpower, hcoarse⟩
  · have hlowest' : (lowest units : ℚ) + 2 * spacing units = 4 * units := by exact_mod_cast hlowest
    linarith
  · have hlowest' : (lowest units : ℚ) + spacing units = 4 * units := by exact_mod_cast hlowest
    have hbits' : (units : ℚ) = 2 ^ 52 * spacing units := by
      exact_mod_cast eq_spacing hpower hcoarse
    linarith

/-- The nearest number of seventeen digits rounds to the number. -/
theorem exists_nearestWithin (hunits : Representable units) (hpos : 0 < units)
    (hpoint : 10 ^ (point - 1) * (unitsPerOne : ℚ) ≤ units) :
    ∃ d, nearestWithin units point 17 = some d := by
  obtain ⟨inside, n, den, hinside, hden, hquotient, heq⟩ := nearestWithin_spec units point 17
  obtain ⟨hlow, hhigh⟩ := roundDiv_near (n := n) hden
  generalize hnearest : roundDiv n den = nearest at *
  have hden' : (0 : ℚ) < den := by exact_mod_cast hden
  have hunits' : (0 : ℚ) < units := by exact_mod_cast hpos
  have hone := unitsPerOne_pos
  have hten : (10 : ℚ) ^ (point - 1) = 10 ^ 16 * 10 ^ (point - (17 : ℕ)) := by
    have hplace : point - 1 = (16 : ℕ) + (point - (17 : ℕ)) := by
      rw [Nat.cast_ofNat, Nat.cast_ofNat]
      ring
    rw [hplace, zpow_add₀ (by norm_num), zpow_natCast]
  have hstep : (0 : ℚ) < 10 ^ (point - (17 : ℕ)) * unitsPerOne :=
    mul_pos (zpow_pos (by norm_num) _) hone
  rw [hten, mul_assoc] at hpoint
  simp only [mul_assoc] at hinside
  generalize (10 : ℚ) ^ (point - (17 : ℕ)) * unitsPerOne = step at *
  -- the quotient is a half away from the nearest whole number at most, and a step is that of it
  have hbelow : 2 * (nearest : ℚ) ≤ 2 * (n / den) + 1 := by
    have hlow' : 2 * (nearest * den : ℚ) ≤ 2 * n + den := by exact_mod_cast hlow
    have : 2 * ((n : ℚ) / den) + 1 = (2 * n + den) / den := by field_simp
    rw [this, le_div_iff₀ hden']
    linarith
  have habove : 2 * (n / den : ℚ) ≤ 2 * nearest + 1 := by
    have hhigh' : 2 * (n : ℚ) ≤ 2 * (nearest * den) + den := by exact_mod_cast hhigh
    have : 2 * ((n : ℚ) / den) = 2 * n / den := by ring
    rw [this, div_le_iff₀ hden']
    linarith
  have hlow' := mul_le_mul_of_nonneg_right hbelow hstep.le
  have hhigh' := mul_le_mul_of_nonneg_right habove hstep.le
  have hround : inside nearest = true :=
    (hinside nearest).2 (roundsTo_of_near hunits hpos hpoint (by linarith) (by linarith))
  have hne : nearest ≠ 0 := by
    rintro rfl
    rw [Nat.cast_zero] at hhigh'
    linarith
  exact ⟨_, by rw [heq, if_pos (by simp [hround, hne])]⟩

/-! Where the digits begin. -/

/-- The search for the place of the point does not go beyond a power of ten below the number. -/
theorem pointFrom_le {n d : ℕ} (fuel : ℕ) (h : 10 ^ (point - 1) * (d : ℚ) ≤ n) :
    10 ^ (pointFrom n d fuel point - 1) * (d : ℚ) ≤ n := by
  induction fuel generalizing point with
  | zero => exact h
  | succ fuel ih =>
    rw [pointFrom]
    split_ifs with hsign hbelow hbelow
    · exact h
    · refine ih ?_
      rw [add_sub_cancel_right, ten_zpow_of_nonneg hsign, mul_comm]
      exact_mod_cast Nat.le_of_not_lt hbelow
    · exact h
    · refine ih ?_
      rw [add_sub_cancel_right, ten_zpow_of_neg (by omega), one_div_mul_eq_div,
        div_le_iff₀ (by exact_mod_cast Nat.pow_pos (by decide))]
      exact_mod_cast Nat.le_of_not_lt hbelow

/-- Where the search begins, there is a power of ten below the power of two. -/
theorem ten_le_two {e : ℤ} (hlow : -66000 ≤ e) (hhigh : e ≤ 2900) :
    (10 : ℚ) ^ (e * 30103 / 100000 - 3) ≤ 2 ^ e := by
  generalize hs : e * 30103 / 100000 - 3 = s
  -- `10 ^ 3` is a little less than `2 ^ 10`, and `10 ^ 28` a little more than `2 ^ 93`
  rcases le_or_gt 0 e with hsign | hsign
  · have hexponent : s * (10 : ℕ) ≤ 3 * e := by
      push_cast
      omega
    rw [← pow_le_pow_iff_left₀ (by positivity) (by positivity) (by decide : 10 ≠ 0)]
    calc ((10 : ℚ) ^ s) ^ 10 = 10 ^ (s * (10 : ℕ)) := by rw [zpow_mul, zpow_natCast]
      _ ≤ 10 ^ (3 * e) := zpow_le_zpow_right₀ (by norm_num) hexponent
      _ = (10 ^ (3 : ℤ)) ^ e := zpow_mul _ _ _
      _ ≤ (2 ^ 10) ^ e := zpow_le_zpow_left₀ hsign (by positivity) (by norm_num)
      _ = (2 ^ e) ^ 10 := by rw [← zpow_natCast, ← zpow_natCast, ← zpow_mul, ← zpow_mul, mul_comm]
  · have hexponent : s * (93 : ℕ) ≤ 28 * e := by
      push_cast
      omega
    have hpowers : (2 : ℚ) ^ 93 ≤ 10 ^ (28 : ℤ) := by norm_num
    have hbase : ((10 : ℚ) ^ (28 : ℤ)) ^ e ≤ (2 ^ 93) ^ e := by
      rw [← neg_neg e, zpow_neg, zpow_neg _ (-e)]
      exact inv_anti₀ (by positivity) (zpow_le_zpow_left₀ (by omega) (by positivity) hpowers)
    rw [← pow_le_pow_iff_left₀ (by positivity) (by positivity) (by decide : 93 ≠ 0)]
    calc ((10 : ℚ) ^ s) ^ 93 = 10 ^ (s * (93 : ℕ)) := by rw [zpow_mul, zpow_natCast]
      _ ≤ 10 ^ (28 * e) := zpow_le_zpow_right₀ (by norm_num) hexponent
      _ = (10 ^ (28 : ℤ)) ^ e := zpow_mul _ _ _
      _ ≤ (2 ^ 93) ^ e := hbase
      _ = (2 ^ e) ^ 93 := by rw [← zpow_natCast, ← zpow_natCast, ← zpow_mul, ← zpow_mul, mul_comm]

/-- The digits of a number do not begin behind its first one. -/
theorem pointOf_le (hunits : Representable units) (hpos : 0 < units) :
    10 ^ (pointOf units unitsPerOne - 1) * (unitsPerOne : ℚ) ≤ units := by
  have hone : unitsPerOne = 2 ^ 1074 := Nat.pow_eq
  have hlog : unitsPerOne.log2 = 1074 := by rw [hone, Nat.log2_two_pow]
  have hsmall : units.log2 < 2098 := by
    rw [Nat.log2_lt hpos.ne', ← Nat.pow_eq]
    exact hunits.finite
  refine pointFrom_le 8 ?_
  rw [hlog]
  have hstart : ((units.log2 : ℤ) - (1074 : ℕ) - 1) * 30103 / 100000 - 2 - 1 =
      ((units.log2 : ℤ) - 1075) * 30103 / 100000 - 3 := by
    push_cast
    ring_nf
  have hone' : (unitsPerOne : ℚ) = 2 ^ (1074 : ℤ) := by
    rw [hone, Nat.cast_pow, Nat.cast_ofNat, ← zpow_natCast, Nat.cast_ofNat]
  have hpower : (2 : ℚ) ^ units.log2 ≤ units := by exact_mod_cast Nat.log2_self_le hpos.ne'
  have hless : (units.log2 : ℤ) - 1075 + 1074 = units.log2 - 1 := by ring
  rw [hstart, hone']
  calc (10 : ℚ) ^ (((units.log2 : ℤ) - 1075) * 30103 / 100000 - 3) * 2 ^ (1074 : ℤ)
      ≤ 2 ^ ((units.log2 : ℤ) - 1075) * 2 ^ (1074 : ℤ) :=
        mul_le_mul_of_nonneg_right (ten_le_two (by omega) (by omega)) (by positivity)
    _ = 2 ^ ((units.log2 : ℤ) - 1) := by
        rw [← zpow_add₀ two_ne_zero, hless]
    _ ≤ 2 ^ (units.log2 : ℤ) := zpow_le_zpow_right₀ (by norm_num) (by omega)
    _ ≤ units := by rwa [zpow_natCast]

/-- The shortest decimal of a magnitude rounds to it. -/
theorem roundsTo_shortest (hunits : Representable units) (hpos : 0 < units) :
    RoundsTo units ((shortest units).value * unitsPerOne) := by
  obtain ⟨last, hlast⟩ := exists_nearestWithin hunits hpos (pointOf_le hunits hpos)
  unfold shortest
  dsimp only
  generalize hfound : (List.range 17).findSome? _ = found
  cases found with
  | none =>
    rw [List.findSome?_eq_none_iff] at hfound
    have hnone := hfound 16 (List.mem_range.2 (by decide))
    rw [hlast] at hnone
    exact nomatch hnone
  | some d =>
    obtain ⟨i, -, hi⟩ := List.exists_of_findSome?_eq_some hfound
    exact roundsTo_of_nearestWithin hi

end FormulaOcr.Binary64
