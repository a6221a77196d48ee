import Mathlib.Data.List.TakeWhile
import Mathlib.Tactic
import FormulaOcr.Json.Reader
import FormulaOcr.Json.Writer

/-! Numbers at the front of a text end where nothing goes on with them, and whole numbers are read
back from their digits. -/

namespace FormulaOcr.Json

/-- Characters that a number can go on with. -/
def continuesNumber (c : Char) : Bool :=
  Text.isAsciiDigit c || ['.', 'e', 'E', '+', '-'].contains c

/-- A text at whose front a number has ended. -/
def Delimited (rest : List Char) : Prop :=
  ∀ c ∈ rest.head?, continuesNumber c = false

/-- A text at whose front a run of digits has ended. -/
def EndsDigits (rest : List Char) : Prop :=
  ∀ c ∈ rest.head?, Text.isAsciiDigit c = false

theorem delimited_nil : Delimited [] := by
  simp [Delimited]

theorem delimited_cons {c : Char} {rest : List Char} (h : continuesNumber c = false) :
    Delimited (c :: rest) := by
  simpa [Delimited] using h

theorem Delimited.head {c : Char} {rest : List Char} (h : Delimited (c :: rest)) :
    Text.isAsciiDigit c = false ∧ c ≠ '.' ∧ c ≠ 'e' ∧ c ≠ 'E' ∧ c ≠ '+' ∧ c ≠ '-' := by
  simpa [Delimited, continuesNumber] using h

theorem span_append {p : Char → Bool} {rest : List Char} (h : ∀ c ∈ rest.head?, p c = false)
    (t : List Char) :
    (t ++ rest).takeWhile p = t.takeWhile p ∧ (t ++ rest).dropWhile p = t.dropWhile p ++ rest := by
  induction t with
  | nil =>
    cases rest with
    | nil => simp
    | cons c rest => constructor <;> simp [h c rfl]
  | cons c t ih =>
    by_cases hc : p c = true
    · constructor <;> simp [hc, ih]
    · constructor <;> simp [hc]

section Append

variable {t r rest : List Char}

theorem Delimited.ends (hr : Delimited rest) : EndsDigits rest := by
  intro c hc
  cases rest with
  | nil => simp at hc
  | cons d rest =>
    obtain rfl : d = c := by simpa using hc
    exact hr.head.1

theorem digits_append (hr : Delimited rest) (t : List Char) :
    (t ++ rest).takeWhile Text.isAsciiDigit = t.takeWhile Text.isAsciiDigit ∧
      (t ++ rest).dropWhile Text.isAsciiDigit = t.dropWhile Text.isAsciiDigit ++ rest :=
  span_append hr.ends t

theorem takeWhole_append (hr : Delimited rest) {w : List Char} (h : takeWhole t = some (w, r)) :
    takeWhole (t ++ rest) = some (w, r ++ rest) := by
  have hd := digits_append hr t
  unfold takeWhole at h ⊢
  split at h
  · simp only [Option.some.injEq, Prod.mk.injEq] at h
    obtain ⟨rfl, rfl⟩ := h
    rfl
  · next hzero =>
    dsimp only at h
    split_ifs at h with hempty
    simp only [Option.some.injEq, Prod.mk.injEq] at h
    obtain ⟨rfl, rfl⟩ := h
    cases t with
    | nil => simp at hempty
    | cons c t =>
      rw [List.cons_append] at hd ⊢
      split
      · next hc =>
        exact absurd (by rw [(List.cons.inj hc).1]) (hzero t)
      · simp only [hd, if_neg hempty]

theorem takeFraction_append (hr : Delimited rest) {f : Option (List Char)}
    (h : takeFraction t = (f, r)) : takeFraction (t ++ rest) = (f, r ++ rest) := by
  unfold takeFraction at h ⊢
  split at h
  · next tail =>
    have hd := digits_append hr tail
    simp only [List.cons_append, hd]
    by_cases hempty : (tail.takeWhile Text.isAsciiDigit).isEmpty = true
    · simp only [hempty, if_true, Prod.mk.injEq] at h ⊢
      obtain ⟨rfl, rfl⟩ := h
      exact ⟨rfl, rfl⟩
    · simp only [hempty, if_false, Prod.mk.injEq, Bool.false_eq_true] at h ⊢
      obtain ⟨rfl, rfl⟩ := h
      exact ⟨rfl, rfl⟩
  · next hpoint =>
    simp only [Prod.mk.injEq] at h
    obtain ⟨rfl, rfl⟩ := h
    cases t with
    | nil =>
      cases rest with
      | nil => rfl
      | cons c rest =>
        split
        · next hc => exact absurd (List.cons.inj hc).1 hr.head.2.1
        · rfl
    | cons c t =>
      split
      · next hc => exact absurd (by rw [(List.cons.inj hc).1]) (hpoint t)
      · rfl

theorem takeSign_append (hr : Delimited rest) (t : List Char) :
    Number.takeSign (t ++ rest) = ((Number.takeSign t).1, (Number.takeSign t).2 ++ rest) := by
  cases t with
  | nil =>
    cases rest with
    | nil => rfl
    | cons c rest =>
      have hc := hr.head
      unfold Number.takeSign
      split <;> simp_all
  | cons c t =>
    unfold Number.takeSign
    split <;> simp_all

theorem takeExponent_append (hr : Delimited rest) {e : Option ℤ}
    (h : takeExponent t = (e, r)) : takeExponent (t ++ rest) = (e, r ++ rest) := by
  cases t with
  | nil =>
    simp only [takeExponent, Prod.mk.injEq] at h
    obtain ⟨rfl, rfl⟩ := h
    cases rest with
    | nil => rfl
    | cons c rest =>
      have hc := hr.head
      simp [takeExponent, hc]
  | cons c t =>
    have hs := takeSign_append hr t
    have hd := digits_append hr (Number.takeSign t).2
    simp only [takeExponent, List.cons_append, hs, hd] at h ⊢
    split_ifs at h ⊢
    all_goals
      simp only [Prod.mk.injEq] at h
      obtain ⟨rfl, rfl⟩ := h
      rfl

end Append

theorem takeNumber_minus (t : List Char) : takeNumber ('-' :: t) = takeUnsigned true t := rfl

theorem takeNumber_of_head {t : List Char} (h : t.head? ≠ some '-') :
    takeNumber t = takeUnsigned false t := by
  unfold takeNumber
  split
  · simp at h
  · rfl

theorem takeUnsigned_append {t rest : List Char} (hr : Delimited rest) {negative : Bool} {j : Json}
    (h : takeUnsigned negative t = some (j, [])) :
    takeUnsigned negative (t ++ rest) = some (j, rest) := by
  unfold takeUnsigned at h ⊢
  cases hw : takeWhole t with
  | none => rw [hw] at h; simp at h
  | some found =>
    obtain ⟨whole, r⟩ := found
    rw [hw] at h
    rw [takeWhole_append hr hw]
    dsimp only at h ⊢
    rw [takeFraction_append hr (f := (takeFraction r).1) (r := (takeFraction r).2) rfl]
    dsimp only
    rw [takeExponent_append hr (e := (takeExponent (takeFraction r).2).1)
      (r := (takeExponent (takeFraction r).2).2) rfl]
    dsimp only
    split_ifs at h ⊢ with hnone
    all_goals
      simp only [Option.some.injEq, Prod.mk.injEq] at h ⊢
      obtain ⟨h1, h2⟩ := h
      exact ⟨h1, by rw [h2, List.nil_append]⟩

/-- A text that is one number is read as that number in front of what does not go on with it. -/
theorem takeNumber_append {t rest : List Char} (hr : Delimited rest) {j : Json}
    (h : takeNumber t = some (j, [])) : takeNumber (t ++ rest) = some (j, rest) := by
  by_cases hm : t.head? = some '-'
  · obtain ⟨t, rfl⟩ : ∃ t', t = '-' :: t' := by
      cases t with
      | nil => simp at hm
      | cons c t => exact ⟨t, by simpa using hm⟩
    rw [takeNumber_minus] at h
    rw [List.cons_append, takeNumber_minus]
    exact takeUnsigned_append hr h
  · have hne : (t ++ rest).head? ≠ some '-' := by
      cases t with
      | nil =>
        cases rest with
        | nil => simp
        | cons c rest => simp [hr.head]
      | cons c t => simpa using hm
    rw [takeNumber_of_head hm] at h
    rw [takeNumber_of_head hne]
    exact takeUnsigned_append hr h

/-! Whole numbers. -/

theorem natOfDigits_toDigits (n : ℕ) : Number.natOfDigits (Nat.toDigits 10 n) = n := by
  have h := @Nat.ofDigitChars_ten_toDigits n
  rw [Nat.ofDigitChars_eq_foldl] at h
  unfold Number.natOfDigits Number.digitNat
  simpa only [Nat.mul_comm] using h

theorem isAsciiDigit_of_isDigit {c : Char} (h : c.isDigit = true) : Text.isAsciiDigit c = true := by
  simp only [Char.isDigit, Bool.and_eq_true, decide_eq_true_eq, ge_iff_le, UInt32.le_iff_toNat_le]
    at h
  simp only [Text.isAsciiDigit, Bool.and_eq_true, decide_eq_true_eq]
  exact h

theorem all_digits (n : ℕ) : ∀ c ∈ Nat.toDigits 10 n, Text.isAsciiDigit c = true :=
  fun _ hc => isAsciiDigit_of_isDigit (Nat.isDigit_of_mem_toDigits (by norm_num) (by norm_num) hc)

/-- Only zero begins with a zero. -/
theorem toDigits_head {n : ℕ} (hn : 0 < n) : (Nat.toDigits 10 n).head? ≠ some '0' := by
  induction n using Nat.strongRecOn with
  | _ n ih =>
    by_cases h : n < 10
    · have hdigit : ∀ d < 10, 0 < d → [d.digitChar].head? ≠ some '0' := by decide
      rw [Nat.toDigits_of_lt_base h]
      exact hdigit n h hn
    · rw [Nat.toDigits_of_base_le (by norm_num) (by omega), List.head?_append]
      have := ih (n / 10) (by omega) (by omega)
      cases hd : (Nat.toDigits 10 (n / 10)).head? with
      | none => simp [Nat.toDigits_ne_nil] at hd
      | some d => simpa [hd] using this

theorem digits_before {ds r : List Char} (hds : ∀ c ∈ ds, Text.isAsciiDigit c = true)
    (hr : EndsDigits r) :
    (ds ++ r).takeWhile Text.isAsciiDigit = ds ∧
      (ds ++ r).dropWhile Text.isAsciiDigit = r := by
  obtain ⟨htake, hdrop⟩ := span_append hr ds
  rw [htake, hdrop, List.takeWhile_eq_self_iff.2 hds, List.dropWhile_eq_nil_iff.2 hds]
  exact ⟨rfl, rfl⟩

/-- The whole part of a spelling: one zero, or digits of which the first is another one. -/
def Whole (ds : List Char) : Prop :=
  ds = ['0'] ∨ ds ≠ [] ∧ ds.head? ≠ some '0' ∧ ∀ c ∈ ds, Text.isAsciiDigit c = true

theorem takeWhole_whole {ds r : List Char} (h : Whole ds) (hr : EndsDigits r) :
    takeWhole (ds ++ r) = some (ds, r) := by
  rcases h with rfl | ⟨hne, hfront, hds⟩
  · rfl
  · obtain ⟨htake, hdrop⟩ := digits_before hds hr
    obtain ⟨c, tail, rfl⟩ := List.exists_cons_of_ne_nil hne
    unfold takeWhole
    split
    · next heq =>
      rw [List.cons_append] at heq
      exact absurd (congrArg some (List.cons.inj heq).1) hfront
    · simp only [htake, hdrop, List.isEmpty_cons, Bool.false_eq_true, if_false]

theorem takeWhole_toDigits (n : ℕ) :
    takeWhole (Nat.toDigits 10 n) = some (Nat.toDigits 10 n, []) := by
  rcases Nat.eq_zero_or_pos n with rfl | hn
  · rfl
  · have hwhole : Whole (Nat.toDigits 10 n) :=
      .inr ⟨Nat.toDigits_ne_nil, toDigits_head hn, all_digits n⟩
    simpa using takeWhole_whole hwhole (r := []) (by simp [EndsDigits])

theorem takeUnsigned_toDigits (negative : Bool) (n : ℕ) :
    takeUnsigned negative (Nat.toDigits 10 n) = some (.int (Binary64.signed negative n), []) := by
  simp [takeUnsigned, takeWhole_toDigits, takeFraction, takeExponent, natOfDigits_toDigits]

/-- A whole number is read back. -/
theorem takeNumber_writeInt (n : ℤ) : takeNumber (writeInt n) = some (.int n, []) := by
  unfold writeInt Binary64.withSign
  split_ifs with h
  · rw [decide_eq_true_eq] at h
    rw [takeNumber_minus, takeUnsigned_toDigits]
    congr 3
    simp only [Binary64.signed, if_true]
    omega
  · rw [decide_eq_true_eq] at h
    have hm : (Nat.toDigits 10 n.natAbs).head? ≠ some '-' := by
      intro hc
      have := all_digits n.natAbs '-' (List.mem_of_mem_head? hc)
      revert this
      decide
    rw [takeNumber_of_head hm, takeUnsigned_toDigits]
    congr 3
    simp only [Binary64.signed, Bool.false_eq_true, if_false]
    omega

/-! What a number is made of. -/

theorem continuesNumber_of_digit {c : Char} (h : Text.isAsciiDigit c = true) :
    continuesNumber c = true := by
  rw [continuesNumber, h, Bool.true_or]

theorem digit_takeWhile {t : List Char} :
    ∀ c ∈ t.takeWhile Text.isAsciiDigit, Text.isAsciiDigit c = true :=
  fun _ hc => List.mem_takeWhile_imp hc

theorem takeWhole_spec {t w r : List Char} (h : takeWhole t = some (w, r)) :
    t = w ++ r ∧ w ≠ [] ∧ ∀ c ∈ w, Text.isAsciiDigit c = true := by
  unfold takeWhole at h
  split at h
  · simp only [Option.some.injEq, Prod.mk.injEq] at h
    obtain ⟨rfl, rfl⟩ := h
    exact ⟨rfl, by simp, by simp [Text.isAsciiDigit]⟩
  · dsimp only at h
    split_ifs at h with hempty
    simp only [Option.some.injEq, Prod.mk.injEq] at h
    obtain ⟨rfl, rfl⟩ := h
    exact ⟨List.takeWhile_append_dropWhile.symm, by simpa using hempty, digit_takeWhile⟩

theorem takeFraction_spec (t : List Char) :
    ∃ p, t = p ++ (takeFraction t).2 ∧ ∀ c ∈ p, continuesNumber c = true := by
  unfold takeFraction
  split
  · next rest =>
    dsimp only
    split_ifs with hempty
    · exact ⟨[], rfl, by simp⟩
    · refine ⟨'.' :: rest.takeWhile Text.isAsciiDigit, ?_, ?_⟩
      · rw [List.cons_append, List.takeWhile_append_dropWhile]
      · intro c hc
        rcases List.mem_cons.1 hc with rfl | hc
        · decide
        · exact continuesNumber_of_digit (digit_takeWhile c hc)
  · exact ⟨[], rfl, by simp⟩

theorem takeSign_spec (t : List Char) :
    ∃ p, t = p ++ (Number.takeSign t).2 ∧ ∀ c ∈ p, continuesNumber c = true := by
  unfold Number.takeSign
  split
  · refine ⟨['-'], rfl, fun c hc => ?_⟩
    obtain rfl := List.mem_singleton.1 hc
    rfl
  · refine ⟨['+'], rfl, fun c hc => ?_⟩
    obtain rfl := List.mem_singleton.1 hc
    rfl
  · exact ⟨[], rfl, by simp⟩

theorem takeExponent_spec (t : List Char) :
    ∃ p, t = p ++ (takeExponent t).2 ∧ ∀ c ∈ p, continuesNumber c = true := by
  cases t with
  | nil => exact ⟨[], rfl, by simp⟩
  | cons c t =>
    obtain ⟨p, hp, hall⟩ := takeSign_spec t
    simp only [takeExponent]
    split_ifs with hletter hempty
    · exact ⟨[], rfl, by simp⟩
    · refine ⟨c :: (p ++ (Number.takeSign t).2.takeWhile Text.isAsciiDigit), ?_, ?_⟩
      · dsimp only
        rw [List.cons_append, List.append_assoc, List.takeWhile_append_dropWhile, ← hp]
      · intro d hd
        rcases List.mem_cons.1 hd with rfl | hd
        · rw [Bool.or_eq_true, decide_eq_true_eq, decide_eq_true_eq] at hletter
          rcases hletter with rfl | rfl <;> decide
        · rcases List.mem_append.1 hd with hd | hd
          · exact hall d hd
          · exact continuesNumber_of_digit (digit_takeWhile d hd)
    · exact ⟨[], rfl, by simp⟩

theorem takeUnsigned_spec {t : List Char} {negative : Bool} {j : Json}
    (h : takeUnsigned negative t = some (j, [])) :
    (∃ c rest, t = c :: rest ∧ Text.isAsciiDigit c = true) ∧ ∀ c ∈ t, continuesNumber c = true := by
  unfold takeUnsigned at h
  cases hw : takeWhole t with
  | none => rw [hw] at h; simp at h
  | some found =>
    obtain ⟨whole, r⟩ := found
    rw [hw] at h
    dsimp only at h
    obtain ⟨rfl, hne, hdigits⟩ := takeWhole_spec hw
    obtain ⟨f, hf, hfall⟩ := takeFraction_spec r
    obtain ⟨e, he, heall⟩ := takeExponent_spec (takeFraction r).2
    have hrest : (takeExponent (takeFraction r).2).2 = [] := by
      split_ifs at h <;>
        · simp only [Option.some.injEq, Prod.mk.injEq] at h
          exact h.2
    rw [hrest, List.append_nil] at he
    refine ⟨?_, ?_⟩
    · obtain ⟨c, w, rfl⟩ := List.exists_cons_of_ne_nil hne
      exact ⟨c, w ++ r, rfl, hdigits c (by simp)⟩
    · intro c hc
      rw [hf, he] at hc
      rcases List.mem_append.1 hc with hc | hc
      · exact continuesNumber_of_digit (hdigits c hc)
      · rcases List.mem_append.1 hc with hc | hc
        · exact hfall c hc
        · exact heall c hc

/-- A number begins with a digit, perhaps behind a minus sign. -/
theorem takeNumber_head {t : List Char} {j : Json} (h : takeNumber t = some (j, [])) :
    ∃ sign c rest, t = sign ++ c :: rest ∧ (sign = [] ∨ sign = ['-']) ∧
      Text.isAsciiDigit c = true := by
  unfold takeNumber at h
  split at h
  · obtain ⟨⟨c, rest, rfl, hc⟩, -⟩ := takeUnsigned_spec h
    exact ⟨['-'], c, rest, rfl, Or.inr rfl, hc⟩
  · obtain ⟨⟨c, rest, rfl, hc⟩, -⟩ := takeUnsigned_spec h
    exact ⟨[], c, rest, rfl, Or.inl rfl, hc⟩

theorem takeNumber_chars {t : List Char} {j : Json} (h : takeNumber t = some (j, [])) :
    ∀ c ∈ t, continuesNumber c = true := by
  unfold takeNumber at h
  split at h
  · intro c hc
    rcases List.mem_cons.1 hc with rfl | hc
    · decide
    · exact (takeUnsigned_spec h).2 c hc
  · exact (takeUnsigned_spec h).2

end FormulaOcr.Json
