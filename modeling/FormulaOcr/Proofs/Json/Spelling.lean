import FormulaOcr.Proofs.Number.Shortest

/-! Every spelling of a finite number is a number to a reader: digits of which the first is no zero,
or one zero alone, perhaps a point with digits behind it, and perhaps an exponent. It is read as the
decimal that was spelled, and so as the number itself if that is one of the format. -/

namespace FormulaOcr

open Json

namespace Binary64

/-- Digits that do not begin with a zero; if there are none, one zero stands in their place. -/
structure Decimal.Proper (d : Decimal) : Prop where
  digits : ∀ c ∈ d.digits, Text.isAsciiDigit c = true
  front : d.digits.head? ≠ some '0'
  zero : d.digits = [] → d.point = 1

theorem significant_begins (n : ℕ) : significant n <+: Nat.toDigits 10 n :=
  List.rdropWhile_prefix (· == '0') _

theorem significant_head {n : ℕ} (hn : 0 < n) :
    significant n ≠ [] ∧ (significant n).head? ≠ some '0' := by
  have hfront := toDigits_head hn
  have hne : significant n ≠ [] := by
    intro hnone
    have hzeros := (List.rdropWhile_eq_nil_iff (p := (· == '0'))).1 hnone
    obtain ⟨c, rest, hdigits⟩ := List.exists_cons_of_ne_nil (Nat.toDigits_ne_nil (n := n) (b := 10))
    rw [hdigits] at hfront hzeros
    exact hfront (by simpa using hzeros c (by simp))
  refine ⟨hne, ?_⟩
  obtain ⟨rest, hrest⟩ := significant_begins n
  obtain ⟨c, ds, hdigits⟩ := List.exists_cons_of_ne_nil hne
  rw [← hrest, hdigits] at hfront
  rw [hdigits]
  exact hfront

theorem proper_significant {n : ℕ} (hn : 0 < n) (point : ℤ) :
    Decimal.Proper ⟨significant n, point⟩ where
  digits c hc := all_digits n c ((significant_begins n).subset hc)
  front := (significant_head hn).2
  zero hnone := absurd hnone (significant_head hn).1

theorem proper_nearestWithin {units count : ℕ} {point : ℤ} {d : Decimal}
    (h : nearestWithin units point count = some d) : d.Proper := by
  have hpos {inside : Bool} {k : ℕ} (h : (inside && k != 0) = true) : 0 < k :=
    Nat.pos_of_ne_zero (bne_iff_ne.1 (Bool.and_eq_true_iff.1 h).2)
  unfold nearestWithin at h
  extract_lets step low high even at h
  split at h
  extract_lets inside down at h
  -- what is taken is not zero: the first two candidates are asked, the last one is a successor
  split_ifs at h with hnearest hdown
  · rw [← Option.some.inj h]
    exact proper_significant (hpos hnearest) _
  · rw [← Option.some.inj h]
    exact proper_significant (hpos hdown) _
  · rw [← Option.some.inj h]
    exact proper_significant (Nat.succ_pos _) _

theorem proper_shortest {units : ℕ} (hunits : 0 < units) : (shortest units).Proper := by
  unfold shortest
  dsimp only
  generalize hfound : (List.range 17).findSome? _ = found
  cases found with
  | none => exact proper_significant hunits _
  | some d =>
    obtain ⟨i, -, hi⟩ := List.exists_of_findSome?_eq_some hfound
    exact proper_nearestWithin hi

theorem proper_digits (units : ℕ) : (Form.shortest.digits units).Proper := by
  unfold Form.digits
  split_ifs with hzero
  · exact ⟨by simp, by simp, fun _ => rfl⟩
  · exact proper_shortest (Nat.pos_of_ne_zero hzero)

end Binary64

namespace Json

open Binary64

/-- A point and the digits behind it, if there are any. -/
def pointed (fraction : List Char) : List Char :=
  if fraction.isEmpty then [] else '.' :: fraction

theorem takeFraction_pointed {fraction rest : List Char}
    (hds : ∀ c ∈ fraction, Text.isAsciiDigit c = true) (hrest : EndsDigits rest)
    (hpoint : rest.head? ≠ some '.') :
    takeFraction (pointed fraction ++ rest) =
      (if fraction.isEmpty then none else some fraction, rest) := by
  unfold pointed
  split_ifs with hnone
  · rw [List.nil_append]
    unfold takeFraction
    split
    · simp at hpoint
    · rfl
  · obtain ⟨htake, hdrop⟩ := digits_before hds hrest
    simp only [List.cons_append, takeFraction, htake, hdrop, hnone, Bool.false_eq_true, if_false]

/-- The text of an exponent, or nothing. -/
def Exponent (t : List Char) (e : Option ℤ) : Prop :=
  t = [] ∧ e = none ∨ ∃ sign ds, t = 'e' :: sign :: ds ∧ (sign = '-' ∨ sign = '+') ∧ ds ≠ [] ∧
    (∀ c ∈ ds, Text.isAsciiDigit c = true) ∧ e = some (signed (sign == '-') (Number.natOfDigits ds))

theorem Exponent.ends {t : List Char} {e : Option ℤ} (h : Exponent t e) :
    EndsDigits t ∧ t.head? ≠ some '.' := by
  rcases h with ⟨rfl, -⟩ | ⟨sign, ds, rfl, -⟩
  · simp [EndsDigits]
  · simp [EndsDigits, Text.isAsciiDigit]

theorem Exponent.take {t : List Char} {e : Option ℤ} (h : Exponent t e) :
    takeExponent t = (e, []) := by
  rcases h with ⟨rfl, rfl⟩ | ⟨sign, ds, rfl, hsign, hne, hds, rfl⟩
  · rfl
  · obtain ⟨htake, hdrop⟩ := digits_before (r := []) hds (by simp [EndsDigits])
    rw [List.append_nil] at htake hdrop
    have hrest : Number.takeSign (sign :: ds) = (sign == '-', ds) := by
      rcases hsign with rfl | rfl <;> rfl
    simp [takeExponent, hrest, htake, hdrop, hne]

/-- The parts of a number make a number: a whole one if there is neither a fraction nor an
exponent. -/
theorem takeUnsigned_parts (negative : Bool) {whole fraction exponent : List Char} {e : Option ℤ}
    (hwhole : Whole whole) (hfraction : ∀ c ∈ fraction, Text.isAsciiDigit c = true)
    (hexponent : Exponent exponent e) (hfloat : fraction ≠ [] ∨ e ≠ none) :
    takeUnsigned negative (whole ++ (pointed fraction ++ exponent)) =
      some (.float (Number.decimal negative whole fraction (e.getD 0)), []) := by
  have hends : EndsDigits (pointed fraction ++ exponent) := by
    unfold pointed
    split_ifs
    · exact hexponent.ends.1
    · simp [EndsDigits, Text.isAsciiDigit]
  have hrest := takeFraction_pointed hfraction hexponent.ends.1 hexponent.ends.2
  unfold takeUnsigned
  simp only [takeWhole_whole hwhole hends, hrest, hexponent.take]
  by_cases hnone : fraction = []
  · subst hnone
    cases e with
    | none => simp at hfloat
    | some e => rfl
  · simp [hnone]

theorem all_replicate_zero {n : ℕ} : ∀ c ∈ List.replicate n '0', Text.isAsciiDigit c = true := by
  intro c hc
  rw [List.eq_of_mem_replicate hc]
  decide

theorem natOfDigits_append_zeros (t : List Char) (n : ℕ) :
    Number.natOfDigits (t ++ List.replicate n '0') = Number.natOfDigits t * 10 ^ n := by
  rw [natOfDigits_append, natOfDigits_zeros, List.length_replicate, Nat.add_zero]

theorem natOfDigits_zeros_append (n : ℕ) (t : List Char) :
    Number.natOfDigits (List.replicate n '0' ++ t) = Number.natOfDigits t := by
  rw [natOfDigits_append, natOfDigits_zeros, Nat.zero_mul, Nat.zero_add]

/-- The digits in front of the point. -/
def wholePart (d : Decimal) : List Char :=
  if d.point ≤ 0 then ['0'] else
    d.digits.take d.point.toNat ++
      List.replicate (d.point.toNat - (d.digits.take d.point.toNat).length) '0'

/-- The digits behind the point, without those that only fill up a number of places. -/
def fractionPart (d : Decimal) : List Char :=
  List.replicate (-d.point).toNat '0' ++ d.digits.drop d.point.toNat

theorem positional_eq (places : ℕ) (d : Decimal) :
    positional places { onePlace := true } d = wholePart d ++
      pointed (fractionPart d ++ List.replicate (places - (fractionPart d).length) '0') := by
  simp [positional, wholePart, fractionPart, pointed]

theorem whole_wholePart {d : Decimal} (h : d.Proper) : Whole (wholePart d) := by
  unfold wholePart
  split_ifs with hpoint
  · exact .inl rfl
  · by_cases hnone : d.digits = []
    · left
      rw [hnone, h.zero hnone]
      rfl
    · right
      obtain ⟨n, hn⟩ : ∃ n, d.point.toNat = n + 1 := ⟨d.point.toNat - 1, by omega⟩
      obtain ⟨c, tail, hdigits⟩ := List.exists_cons_of_ne_nil hnone
      have hfront := h.front
      have hds := h.digits
      rw [hdigits] at hfront hds ⊢
      rw [hn, List.take_succ_cons]
      refine ⟨by simp, by simpa using hfront, ?_⟩
      intro x hx
      rcases List.mem_append.1 hx with hx | hx
      · rcases List.mem_cons.1 hx with rfl | hx
        · exact hds x (by simp)
        · exact hds x (List.mem_cons_of_mem c (List.mem_of_mem_take hx))
      · exact all_replicate_zero x hx

theorem digits_fractionPart {d : Decimal} (h : d.Proper) (n : ℕ) :
    ∀ c ∈ fractionPart d ++ List.replicate n '0', Text.isAsciiDigit c = true := by
  intro c hc
  rcases List.mem_append.1 hc with hc | hc
  · rcases List.mem_append.1 hc with hc | hc
    · exact all_replicate_zero c hc
    · exact h.digits c (List.mem_of_mem_drop hc)
  · exact all_replicate_zero c hc

/-- The digits on both sides of the point are those of the decimal, but for zeros. -/
theorem value_parts (d : Decimal) :
    (Number.natOfDigits (wholePart d ++ fractionPart d) : ℚ) * 10 ^ (-(fractionPart d).length : ℤ) =
      d.value := by
  unfold wholePart fractionPart Decimal.value
  split_ifs with hpoint
  · have hnone : d.point.toNat = 0 := by omega
    rw [hnone, List.drop_zero, ← List.replicate_one, natOfDigits_zeros_append,
      natOfDigits_zeros_append, List.length_append, List.length_replicate]
    congr 2
    push_cast
    omega
  · have hnone : (-d.point).toNat = 0 := by omega
    rw [hnone, List.replicate_zero, List.nil_append]
    rcases le_or_gt d.digits.length d.point.toNat with hlong | hshort
    · rw [List.take_of_length_le hlong, List.drop_of_length_le hlong, List.append_nil,
        natOfDigits_append_zeros, List.length_nil, Nat.cast_zero, neg_zero, zpow_zero, mul_one]
      have hplaces : d.point - d.digits.length = (d.point.toNat - d.digits.length : ℕ) := by omega
      rw [hplaces, zpow_natCast]
      push_cast
      rfl
    · rw [List.length_take, Nat.min_eq_left hshort.le, Nat.sub_self, List.replicate_zero,
        List.append_nil, List.take_append_drop, List.length_drop]
      congr 2
      omega

/-- Zeros behind the last digit do not count. -/
theorem value_filled (d : Decimal) (n : ℕ) (e : ℤ) :
    (Number.natOfDigits (wholePart d ++ (fractionPart d ++ List.replicate n '0')) : ℚ) *
      10 ^ (e - (fractionPart d ++ List.replicate n '0').length) = d.value * 10 ^ e := by
  rw [← value_parts, ← List.append_assoc, natOfDigits_append_zeros, List.length_append,
    List.length_replicate, Nat.cast_mul, Nat.cast_pow, Nat.cast_ofNat, mul_assoc, mul_assoc,
    ← zpow_natCast, ← zpow_add₀ (by norm_num), ← zpow_add₀ (by norm_num)]
  congr 2
  push_cast
  ring

/-- The text of an exponent behind the first digit. -/
theorem exponent_scientific (n : ℤ) :
    Exponent ('e' :: (if n < 0 then '-' else '+') :: padded 2 n.natAbs) (some n) := by
  refine .inr ⟨_, _, rfl, ?_, ?_, ?_, ?_⟩
  · split_ifs
    · exact .inl rfl
    · exact .inr rfl
  · simp [padded, Nat.toDigits_ne_nil]
  · intro c hc
    rcases List.mem_append.1 hc with hc | hc
    · exact all_replicate_zero c hc
    · exact all_digits _ c hc
  · rw [padded, natOfDigits_zeros_append, natOfDigits_toDigits]
    split_ifs with hsign
    · simp only [signed, beq_self_eq_true, if_true]
      congr 1
      omega
    · have hplus : (('+' : Char) == '-') = false := by decide
      simp only [signed, hplus, Bool.false_eq_true, if_false]
      congr 1
      omega

/-- The spelling of a finite number is read as a decimal of the spelled value. -/
theorem takeUnsigned_spell (negative : Bool) (units : ℕ) :
    ∃ digits exponent, takeUnsigned negative (spell .shortest { onePlace := true } units) =
        some (.float (.ofDecimal negative digits exponent), []) ∧
      (digits * 10 ^ exponent : ℚ) = (Form.shortest.digits units).value := by
  have hproper := proper_digits units
  unfold spell
  simp only [if_true]
  generalize Form.shortest.digits units = d at hproper
  split_ifs
  · -- in front of the exponent stands the decimal with its point behind the first digit
    have hfirst : Decimal.Proper { d with point := 1 } :=
      ⟨hproper.digits, hproper.front, fun _ => rfl⟩
    rw [scientific, positional_eq, List.append_assoc, List.append_assoc, List.cons_append,
      List.cons_append, List.nil_append,
      takeUnsigned_parts negative (whole_wholePart hfirst) (digits_fractionPart hfirst _)
        (exponent_scientific (d.point - 1)) (.inr (by simp))]
    refine ⟨_, _, rfl, ?_⟩
    rw [Option.getD_some, value_filled, Decimal.value, Decimal.value, mul_assoc,
      ← zpow_add₀ (by norm_num)]
    congr 2
    ring
  · rw [positional_eq, ← List.append_nil (pointed _),
      takeUnsigned_parts negative (whole_wholePart hproper) (digits_fractionPart hproper _)
        (.inl ⟨rfl, rfl⟩) (.inl ?_)]
    · refine ⟨_, _, rfl, ?_⟩
      rw [Option.getD_none, value_filled, zpow_zero, mul_one]
    · intro hnone
      have hlength := congrArg List.length hnone
      rw [List.length_append, List.length_replicate, List.length_nil] at hlength
      omega

/-- The spelling of a finite number is a number to a reader. -/
theorem takeNumber_repr (negative : Bool) (units : ℕ) :
    ∃ digits exponent, takeNumber (repr (.finite negative units)) =
        some (.float (.ofDecimal negative digits exponent), []) ∧
      (digits * 10 ^ exponent : ℚ) = (Form.shortest.digits units).value := by
  obtain ⟨digits, exponent, hj, hvalue⟩ := takeUnsigned_spell negative units
  refine ⟨digits, exponent, ?_, hvalue⟩
  cases negative with
  | true => exact hj
  | false =>
    have hfront : (repr (.finite false units)).head? ≠ some '-' := by
      obtain ⟨⟨c, rest, ht, hc⟩, -⟩ := takeUnsigned_spec hj
      change (spell .shortest { onePlace := true } units).head? ≠ _
      rw [ht]
      rintro hminus
      rw [Option.some.inj hminus] at hc
      revert hc
      decide
    rw [takeNumber_of_head hfront]
    exact hj

/-- A number of the format is read back from its spelling. -/
theorem takeNumber_representable {units : ℕ} (hunits : Representable units) (negative : Bool) :
    takeNumber (repr (.finite negative units)) = some (.float (.finite negative units), []) := by
  obtain ⟨digits, exponent, hj, hvalue⟩ := takeNumber_repr negative units
  rw [hj]
  congr 3
  unfold Form.digits at hvalue
  rcases Nat.eq_zero_or_pos units with rfl | hpos
  · have hnone : (Decimal.value ⟨[], 1⟩ : ℚ) = 0 := zero_mul _
    rw [if_pos rfl, hnone, mul_eq_zero, Nat.cast_eq_zero] at hvalue
    have hzero : digits = 0 := hvalue.resolve_right (zpow_ne_zero _ (by norm_num))
    subst hzero
    rw [ofDecimal, if_pos (by simp)]
  · rw [if_neg hpos.ne'] at hvalue
    refine ofDecimal_of_roundsTo hunits hpos ?_ negative
    rw [hvalue]
    exact roundsTo_shortest hunits hpos

end Json

end FormulaOcr
