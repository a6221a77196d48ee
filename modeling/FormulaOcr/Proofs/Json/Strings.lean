import FormulaOcr.Json.Reader
import FormulaOcr.Json.Writer
import FormulaOcr.Proofs.Encoding.Utf8

/-! Strings are read back from their JSON spelling, with or without escapes for what lies outside
ASCII. A reader takes one escape or plain character at a time, whatever follows it. -/

namespace FormulaOcr.Json

theorem hexValue_hexDigit : ∀ d < 16, hexValue? (Encoding.hexDigit d) = some d := by
  decide

theorem hexDigit_mod (n : ℕ) : Encoding.hexDigit n = Encoding.hexDigit (n % 16) := by
  simp [Encoding.hexDigit]

theorem hexValue_mod (n : ℕ) : hexValue? (Encoding.hexDigit n) = some (n % 16) := by
  rw [hexDigit_mod, hexValue_hexDigit _ (Nat.mod_lt _ (by norm_num))]

theorem hexDigits_four (n : ℕ) :
    Encoding.hexDigits 4 n = [Encoding.hexDigit (n / 16 / 16 / 16), Encoding.hexDigit (n / 16 / 16),
      Encoding.hexDigit (n / 16), Encoding.hexDigit n] := rfl

theorem hexNumber_hexDigits {n : ℕ} (h : n < 0x10000) :
    hexNumber? (Encoding.hexDigits 4 n) = some n := by
  rw [hexDigits_four]
  simp only [hexNumber?, List.foldlM_cons, List.foldlM_nil, hexValue_mod, Option.map_some,
    Option.bind_eq_bind, Option.bind_some, Option.pure_def]
  congr 1
  omega

/-- Four digits are read back where something follows them. -/
theorem readUnit_hexDigits {n : ℕ} (h : n < 0x10000) (c : Char) (rest : List Char) :
    readUnit (Encoding.hexDigits 4 n ++ c :: rest) = .ok (n, c :: rest) := by
  have hn := hexNumber_hexDigits h
  rw [hexDigits_four] at hn ⊢
  simp only [List.cons_append, List.nil_append, readUnit, hn]

theorem charOf_toNat (c : Char) : Encoding.Wide.charOf c.toNat = c := by
  have h := Encoding.Utf8.scalar_bound c
  have hhigh : Encoding.Wide.isHighSurrogate c.toNat = false := by
    simp [Encoding.Wide.isHighSurrogate]; omega
  have hlow : Encoding.Wide.isLowSurrogate c.toNat = false := by
    simp [Encoding.Wide.isLowSurrogate]; omega
  simp [Encoding.Wide.charOf, hhigh, hlow]

theorem readUnicode_basic {c : Char} (h : c.toNat < 0x10000) (d : Char) (rest : List Char) :
    readUnicode (Encoding.hexDigits 4 c.toNat ++ d :: rest) = .ok (c, d :: rest) := by
  have hhigh : Encoding.Wide.isHighSurrogate c.toNat = false := by
    have := Encoding.Utf8.scalar_bound c
    simp [Encoding.Wide.isHighSurrogate]; omega
  rw [readUnicode, readUnit_hexDigits h]
  simp [bind, Except.bind, hhigh, charOf_toNat, pure, Except.pure]

theorem pair_split (n : ℕ) :
    Encoding.Wide.pair (0xD800 + n / 0x400) (0xDC00 + n % 0x400) = 0x10000 + n := by
  unfold Encoding.Wide.pair
  omega

/-- Two units that make a surrogate pair are read as the character that they spell. -/
theorem readUnicode_units {c : Char} (high low : ℕ) (h1 : Encoding.Wide.isHighSurrogate high = true)
    (h2 : Encoding.Wide.isLowSurrogate low = true) (hpair : Encoding.Wide.pair high low = c.toNat)
    (d : Char) (rest : List Char) :
    readUnicode (Encoding.hexDigits 4 high ++ (unicodeEscape low ++ d :: rest)) =
      .ok (c, d :: rest) := by
  have hhigh : high < 0x10000 := by
    simp only [Encoding.Wide.isHighSurrogate, Bool.and_eq_true, decide_eq_true_eq] at h1; omega
  have hlow : low < 0x10000 := by
    simp only [Encoding.Wide.isLowSurrogate, Bool.and_eq_true, decide_eq_true_eq] at h2; omega
  have hlen : ¬ (Encoding.hexDigits 4 low ++ d :: rest).length < 5 := by
    rw [hexDigits_four]; simp
  have hread := readUnit_hexDigits hlow d rest
  rw [readUnicode, unicodeEscape, List.cons_append, List.cons_append, readUnit_hexDigits hhigh]
  simp only [bind, Except.bind, h1, if_true, if_neg hlen, pure, Except.pure, hread, h2, hpair,
    Char.ofNat_toNat]

/-- A character beyond the first 65536 is spelled as the two units of its surrogate pair. -/
theorem escape_supplementary {c : Char} (h : 0x10000 ≤ c.toNat) :
    ∃ high low, Encoding.Wide.isHighSurrogate high = true ∧
      Encoding.Wide.isLowSurrogate low = true ∧ Encoding.Wide.pair high low = c.toNat ∧
      escape c = unicodeEscape high ++ unicodeEscape low := by
  have hc := Encoding.Utf8.scalar_bound c
  obtain ⟨n, hn⟩ : ∃ n, c.toNat = 0x10000 + n := ⟨c.toNat - 0x10000, by omega⟩
  refine ⟨0xD800 + n / 0x400, 0xDC00 + n % 0x400, ?_, ?_, (pair_split n).trans hn.symm, ?_⟩
  · simp only [Encoding.Wide.isHighSurrogate, Bool.and_eq_true, decide_eq_true_eq]
    omega
  · simp only [Encoding.Wide.isLowSurrogate, Bool.and_eq_true, decide_eq_true_eq]
    omega
  · rw [escape, if_neg (by omega), hn, Nat.add_sub_cancel_left]

/-- The escapes of a character are read as that character. -/
theorem readChar_escape (start : List Char) (c d : Char) (rest : List Char) :
    readChar start (escape c ++ d :: rest) = .ok (some c, d :: rest) := by
  have hu (t : List Char) : readChar start ('\\' :: 'u' :: t) =
      (readUnicode t).map fun found => (some found.1, found.2) := rfl
  by_cases h : c.toNat < 0x10000
  · have hread := readUnicode_basic h d rest
    simp only [escape, if_pos h, unicodeEscape, List.cons_append, hu, hread, Except.map]
  · obtain ⟨high, low, h1, h2, hpair, hescape⟩ := escape_supplementary (not_lt.1 h)
    have hread := readUnicode_units high low h1 h2 hpair d rest
    rw [hescape, unicodeEscape, List.cons_append, List.cons_append, List.cons_append,
      List.cons_append, hu, List.append_assoc, hread]
    rfl

/-- A written character is read back where something follows it, as the closing quote does. -/
theorem readChar_writeChar (start : List Char) (ascii : Bool) (c d : Char) (rest : List Char) :
    readChar start (writeChar ascii c ++ d :: rest) = .ok (some c, d :: rest) := by
  unfold writeChar
  split_ifs with h1 h2 h3 h4 h5 h6 h7 h8
  · subst h1; rfl
  · subst h2; rfl
  · subst h3; rfl
  · subst h4; rfl
  · subst h5; rfl
  · subst h6; rfl
  · subst h7; rfl
  · exact readChar_escape start c d rest
  · rw [Bool.or_eq_true, not_or, decide_eq_true_eq, not_lt] at h8
    rw [List.singleton_append, readChar.eq_def]
    split <;> simp_all

theorem writeChar_ne_nil (ascii : Bool) (c : Char) : writeChar ascii c ≠ [] := by
  unfold writeChar escape unicodeEscape
  split_ifs <;> simp

/-- A written string is read back, with fuel for each of its characters and the closing quote. -/
theorem readString_flatMap (start : List Char) (ascii : Bool) (cs rest : List Char) :
    ∀ fuel, cs.length < fuel →
      readString start fuel (cs.flatMap (writeChar ascii) ++ '"' :: rest) = .ok (cs, rest) := by
  induction cs with
  | nil =>
    intro fuel hf
    obtain ⟨fuel, rfl⟩ : ∃ n, fuel = n + 1 := ⟨fuel - 1, by simp at hf; omega⟩
    simp [readString, readChar, bind, Except.bind, pure, Except.pure]
  | cons c cs ih =>
    intro fuel hf
    rw [List.length_cons] at hf
    obtain ⟨fuel, rfl⟩ : ∃ n, fuel = n + 1 := ⟨fuel - 1, by omega⟩
    obtain ⟨d, more, hd⟩ : ∃ d more, cs.flatMap (writeChar ascii) ++ '"' :: rest = d :: more := by
      cases h : cs.flatMap (writeChar ascii) <;> simp
    rw [List.flatMap_cons, List.append_assoc, hd, readString, readChar_writeChar]
    simp only [bind, Except.bind, ← hd, ih fuel (by omega), pure, Except.pure]

theorem length_le_flatMap_writeChar (ascii : Bool) (cs : List Char) :
    cs.length ≤ (cs.flatMap (writeChar ascii)).length := by
  induction cs with
  | nil => simp
  | cons c cs ih =>
    have := List.length_pos_of_ne_nil (writeChar_ne_nil ascii c)
    simp only [List.flatMap_cons, List.length_cons, List.length_append]
    omega

/-- A written string is read behind its opening quote. -/
theorem readString_writeString (start : List Char) (ascii : Bool) (s : String) (rest : List Char) :
    readString start (s.toList.flatMap (writeChar ascii) ++ '"' :: rest).length
      (s.toList.flatMap (writeChar ascii) ++ '"' :: rest) = .ok (s.toList, rest) := by
  apply readString_flatMap
  have := length_le_flatMap_writeChar ascii s.toList
  simp only [List.length_append, List.length_cons]
  omega

end FormulaOcr.Json
