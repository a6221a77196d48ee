import Mathlib.Data.List.TakeWhile
import Mathlib.Tactic
import FormulaOcr.Number.Reading

/-! Numerals of ASCII digits and points. What is typed that way is read as it stands: there are no
blanks, no underscores and no sign to be taken off, and it spells no word. A numeral with a digit
and not more than one point is the number that its digits spell, moved by as many places as there
are digits behind the point. -/

namespace FormulaOcr.Number

/-- Nothing but digits and points. -/
def Numeric (t : List Char) : Prop :=
  ∀ c ∈ t, c = '.' ∨ Text.isAsciiDigit c = true

/-- The number that a numeral spells; none if it has two points, or no digit. -/
def numeral? (t : List Char) : Option Binary64 :=
  if t.count '.' ≤ 1 ∧ t.any (· ≠ '.') then
    some (.ofDecimal false (natOfDigits (t.filter (· ≠ '.')))
      (-((t.dropWhile (· ≠ '.')).tail.length : ℤ)))
  else none

variable {t : List Char} {c : Char}

theorem isAsciiDigit_iff : Text.isAsciiDigit c = true ↔ 48 ≤ c.toNat ∧ c.toNat ≤ 57 := by
  simp [Text.isAsciiDigit]

theorem isDigit_of_isAsciiDigit (h : Text.isAsciiDigit c = true) : Text.isDigit c = true := by
  obtain ⟨hlow, hhigh⟩ := isAsciiDigit_iff.1 h
  have hfirst : (decide (0x30 ≤ c.toNat) && decide (c.toNat < 0x30 + 10)) = true := by
    simp only [Bool.and_eq_true, decide_eq_true_eq]
    omega
  rw [Text.isDigit, Text.digitValue?, Text.digitZeros, List.find?_cons, hfirst]
  rfl

theorem toNat_of_numeric (ht : Numeric t) (hc : c ∈ t) : 46 ≤ c.toNat ∧ c.toNat ≤ 57 := by
  rcases ht c hc with rfl | hdigit
  · decide
  · have hrange := isAsciiDigit_iff.1 hdigit
    omega

theorem Numeric.tail (h : Numeric (c :: t)) : Numeric t :=
  fun d hd => h d (List.mem_cons_of_mem c hd)

/-! The steps of reading, none of which changes a numeral. -/

theorem plain?_numeric (ht : Numeric t) : plain? t = some t := by
  induction t with
  | nil => rfl
  | cons c t ih =>
    have hrange := toNat_of_numeric ht List.mem_cons_self
    have hascii : c.toNat < 127 := by omega
    rw [plain?, List.mapM_cons, if_pos hascii, ← plain?, ih ht.tail]
    rfl

theorem not_plainBlank (ht : Numeric t) (hc : c ∈ t) : isPlainBlank c = false := by
  have hrange := toNat_of_numeric ht hc
  have hspace : c ≠ ' ' := by
    rintro rfl
    revert hrange
    decide
  have hcontrol : ¬ c.toNat ≤ 0xD := by omega
  simp [isPlainBlank, hspace, hcontrol]

theorem dropWhile_plainBlank {u : List Char} (hu : ∀ c ∈ u, isPlainBlank c = false) :
    u.dropWhile isPlainBlank = u := by
  cases u with
  | nil => rfl
  | cons c u => exact List.dropWhile_cons_of_neg (by simp [hu c List.mem_cons_self])

theorem trimPlain_numeric (ht : Numeric t) : trimPlain t = t := by
  have hblank : ∀ c ∈ t, isPlainBlank c = false := fun c hc => not_plainBlank ht hc
  rw [trimPlain, dropWhile_plainBlank hblank,
    dropWhile_plainBlank fun c hc => hblank c (List.mem_reverse.1 hc), List.reverse_reverse]

theorem withoutUnderscores?_numeric (ht : Numeric t) {previous : Char} (hp : previous ≠ '_') :
    withoutUnderscores? previous t = some t := by
  induction t generalizing previous with
  | nil => rw [withoutUnderscores?, if_neg hp]
  | cons c t ih =>
    have hc : c ≠ '_' := by
      rintro rfl
      have hrange := toNat_of_numeric ht List.mem_cons_self
      revert hrange
      decide
    have hprevious : ¬ (decide (previous = '_') && !Text.isAsciiDigit c) = true := by simp [hp]
    rw [withoutUnderscores?, if_neg hc, if_neg hprevious, ih ht.tail hc, Option.map_some]

theorem takeSign_numeric (ht : Numeric t) : takeSign t = (false, t) := by
  cases t with
  | nil => rfl
  | cons c t =>
    have hrange := toNat_of_numeric ht List.mem_cons_self
    have hminus : c ≠ '-' := by
      rintro rfl
      revert hrange
      decide
    have hplus : c ≠ '+' := by
      rintro rfl
      revert hrange
      decide
    simp [takeSign, hminus, hplus]

theorem toLower_of_small (hc : c.toNat ≤ 57) : c.toLower = c := by
  have hcase : ¬ (c.val ≥ 'A'.val ∧ c.val ≤ 'Z'.val) := by
    rintro ⟨h, -⟩
    have hle : 65 ≤ c.toNat := h
    omega
  exact dif_neg hcase

/-- A numeral has no letter, so it spells none of the words that are numbers. -/
theorem not_word (ht : Numeric t) {word : String} (c : Char) (hc : c ∈ word.toList)
    (hlarge : 57 < c.toNat) : (String.ofList (t.map Char.toLower) == word) = false := by
  rw [beq_eq_false_iff_ne]
  rintro rfl
  rw [String.toList_ofList, List.mem_map] at hc
  obtain ⟨d, hd, rfl⟩ := hc
  have hrange := toNat_of_numeric ht hd
  rw [toLower_of_small hrange.2] at hlarge
  omega

/-- A numeral is a run of digits, and a point and a numeral behind it if it goes on. -/
theorem numeric_parts (ht : Numeric t) :
    (∀ c ∈ t.takeWhile Text.isAsciiDigit, Text.isAsciiDigit c = true) ∧
      (t.dropWhile Text.isAsciiDigit = [] ∨
        ∃ rest, t.dropWhile Text.isAsciiDigit = '.' :: rest ∧ Numeric rest) := by
  refine ⟨fun c hc => List.mem_takeWhile_imp hc, ?_⟩
  cases hrest : t.dropWhile Text.isAsciiDigit with
  | nil => exact .inl rfl
  | cons c rest =>
    have hnumeric : Numeric (c :: rest) := by
      rw [← hrest]
      exact fun d hd => ht d ((List.dropWhile_sublist _).subset hd)
    have hpoint : Text.isAsciiDigit c = false := by
      have hhead := List.head?_dropWhile_not Text.isAsciiDigit t
      rw [hrest] at hhead
      simpa using hhead
    rcases hnumeric c List.mem_cons_self with rfl | hdigit
    · exact .inr ⟨rest, rfl, hnumeric.tail⟩
    · rw [hpoint] at hdigit
      exact nomatch hdigit

theorem digit_ne_point (hc : Text.isAsciiDigit c = true) : c ≠ '.' := by
  rintro rfl
  revert hc
  decide

theorem point_notMem {digits : List Char} (h : ∀ c ∈ digits, Text.isAsciiDigit c = true) :
    '.' ∉ digits :=
  fun hmem => digit_ne_point (h '.' hmem) rfl

theorem filter_digits {digits : List Char} (h : ∀ c ∈ digits, Text.isAsciiDigit c = true) :
    digits.filter (· ≠ '.') = digits := by
  rw [List.filter_eq_self]
  intro c hc
  simpa using digit_ne_point (h c hc)

theorem any_digits {digits : List Char} (h : ∀ c ∈ digits, Text.isAsciiDigit c = true) :
    digits.any (· ≠ '.') = !digits.isEmpty := by
  cases digits with
  | nil => rfl
  | cons c digits => simp [digit_ne_point (h c List.mem_cons_self)]

/-- What digits spell, and what they spell with a point among or beside them. -/
theorem numeral?_digits {digits : List Char} (h : ∀ c ∈ digits, Text.isAsciiDigit c = true) :
    numeral? digits = if digits.isEmpty then none else some (decimal false digits [] 0) := by
  have hdrop : digits.dropWhile (· ≠ '.') = [] := by
    rw [List.dropWhile_eq_nil_iff]
    intro c hc
    simpa using digit_ne_point (h c hc)
  rw [numeral?, List.count_eq_zero_of_not_mem (point_notMem h), filter_digits h, hdrop,
    any_digits h]
  by_cases hempty : digits.isEmpty = true
  · rw [if_pos hempty, if_neg (by simp [hempty])]
  · rw [if_neg hempty, if_pos ⟨Nat.zero_le 1, by simpa using hempty⟩, decimal, List.append_nil]
    rfl

theorem numeral?_pointed {whole fraction : List Char}
    (hwhole : ∀ c ∈ whole, Text.isAsciiDigit c = true)
    (hfraction : ∀ c ∈ fraction, Text.isAsciiDigit c = true) :
    numeral? (whole ++ '.' :: fraction) =
      if (whole.isEmpty && fraction.isEmpty) = true then none
      else some (decimal false whole fraction 0) := by
  have hcount : (whole ++ '.' :: fraction).count '.' = 1 := by
    rw [List.count_append, List.count_cons_self,
      List.count_eq_zero_of_not_mem (point_notMem hwhole),
      List.count_eq_zero_of_not_mem (point_notMem hfraction)]
  have hdigits : (whole ++ '.' :: fraction).filter (· ≠ '.') = whole ++ fraction := by
    rw [List.filter_append, List.filter_cons_of_neg (by simp), filter_digits hwhole,
      filter_digits hfraction]
  have hdrop : (whole ++ '.' :: fraction).dropWhile (· ≠ '.') = '.' :: fraction := by
    rw [List.dropWhile_append_of_pos fun c hc => by simpa using digit_ne_point (hwhole c hc),
      List.dropWhile_cons_of_neg (by simp)]
  have hsome : (whole ++ '.' :: fraction).any (· ≠ '.') =
      !(whole.isEmpty && fraction.isEmpty) := by
    rw [List.any_append, List.any_cons, any_digits hwhole, any_digits hfraction]
    simp [Bool.not_and]
  rw [numeral?, hcount, hdigits, hdrop, hsome]
  by_cases hempty : (whole.isEmpty && fraction.isEmpty) = true
  · rw [if_pos hempty, if_neg (by simp [hempty])]
  · rw [if_neg hempty, if_pos ⟨le_rfl, by rw [Bool.eq_false_of_not_eq_true hempty, Bool.not_false]⟩,
      decimal, zero_sub, List.tail_cons]

theorem numeral?_of_two_points {whole fraction rest : List Char} :
    numeral? (whole ++ '.' :: (fraction ++ '.' :: rest)) = none := by
  have hcount : ¬ (whole ++ '.' :: (fraction ++ '.' :: rest)).count '.' ≤ 1 := by
    rw [List.count_append, List.count_cons_self, List.count_append, List.count_cons_self]
    omega
  rw [numeral?, if_neg fun h => hcount h.1]

/-- Digits, and at most one point among or beside them. -/
theorem unsigned?_numeric (ht : Numeric t) : unsigned? false t = numeral? t := by
  obtain ⟨hwhole, hrest⟩ := numeric_parts ht
  have hparts := (List.takeWhile_append_dropWhile (l := t) (p := Text.isAsciiDigit)).symm
  unfold unsigned?
  generalize t.takeWhile Text.isAsciiDigit = whole at hwhole hparts ⊢
  generalize t.dropWhile Text.isAsciiDigit = rest at hrest hparts ⊢
  subst hparts
  rcases hrest with rfl | ⟨rest, rfl, hnumeric⟩
  · rw [List.append_nil, numeral?_digits hwhole]
    simp
  · obtain ⟨hfraction, hbehind⟩ := numeric_parts hnumeric
    have hparts := (List.takeWhile_append_dropWhile (p := Text.isAsciiDigit) (l := rest)).symm
    generalize hfront : rest.takeWhile Text.isAsciiDigit = fraction at hfraction hparts
    generalize hback : rest.dropWhile Text.isAsciiDigit = behind at hbehind hparts
    rcases hbehind with rfl | ⟨behind, rfl, -⟩
    · rw [List.append_nil] at hparts
      subst hparts
      rw [numeral?_pointed hwhole hfraction]
      simp [hfront, hback]
    · have hnumeral : numeral? (whole ++ '.' :: (fraction ++ '.' :: behind)) = none :=
        numeral?_of_two_points
      rw [← hparts] at hnumeral
      rw [hnumeral]
      simp [hfront, hback]

/-- A numeral is read as the number that it spells. -/
theorem binary64?_numeric (ht : Numeric t) : binary64? t = numeral? t := by
  have hwords : (String.ofList (t.map Char.toLower) == "inf") = false ∧
      (String.ofList (t.map Char.toLower) == "infinity") = false ∧
      (String.ofList (t.map Char.toLower) == "nan") = false :=
    ⟨not_word ht 'f' (by decide) (by decide), not_word ht 'f' (by decide) (by decide),
      not_word ht 'a' (by decide) (by decide)⟩
  unfold binary64?
  simp only [plain?_numeric ht, trimPlain_numeric ht,
    withoutUnderscores?_numeric ht (by decide : (' ' : Char) ≠ '_'), takeSign_numeric ht, hwords,
    unsigned?_numeric ht, bind, Option.bind]
  rfl

end FormulaOcr.Number
