import FormulaOcr.Proofs.Recognition.Spacing

/-! Formulas as tokens, and what the canonical white space tells of them. A blank can end a command
or be one of its own, the control space. Where a letter or digit follows, the canonical form keeps
it; in front of a symbol it is lost, and a control space with it. So a transcription and the check
that confirms it are the same formula exactly if they have the same control spaces in front of
symbols. -/

namespace FormulaOcr.Recognition

open FormulaOcr.Text

/-- The tokens of a formula: commands with a name, commands of one character, the control space, and
characters that stand for themselves. -/
inductive Token
  | word (name : List Char)
  | symbol (c : Char)
  | space
  | plain (c : Char)
deriving DecidableEq

/-- The character that a token begins with. -/
def Token.first : Token → Char
  | .plain c => c
  | _ => '\\'

/-- A backslash makes a command of all letters behind it, or else of one character, which can be a
blank. Other blanks are no tokens. -/
def tokens : List Char → List Token
  | [] => []
  | c :: rest =>
    if c = '\\' then
      match rest with
      | [] => [.plain c]
      | d :: more =>
        if isAsciiLetter d then
          .word (d :: more.takeWhile isAsciiLetter) :: tokens (more.dropWhile isAsciiLetter)
        else if isBlank d then .space :: tokens more
        else .symbol d :: tokens more
    else if isBlank c then tokens rest
    else .plain c :: tokens rest
termination_by t => t.length
decreasing_by
  all_goals simp only [List.length_cons]
  all_goals try have := (more.dropWhile_sublist isAsciiLetter).length_le
  all_goals omega

/-- A token of a formula is a control space in front of a token that begins with a symbol. -/
def HiddenSpace (ts : List Token) (place : Nat) : Prop :=
  ts[place]? = some .space ∧
    ∃ next ∈ ts[place + 1]?, isAsciiAlphanumeric next.first = false

/-! Tokens of marked characters. -/

/-- The character goes on with a word. -/
def Mark.joins (m : Mark) : Bool :=
  !m.spaced && isAsciiLetter m.char

/-- The tokens of a text that is given by its visible characters. -/
def scan : List Mark → List Token
  | [] => []
  | m :: rest =>
    if m.char = '\\' then
      match rest with
      | [] => [.plain m.char]
      | n :: more =>
        if n.spaced then .space :: scan (n :: more)
        else if isAsciiLetter n.char then
          .word (n.char :: (more.takeWhile Mark.joins).map (·.char)) ::
            scan (more.dropWhile Mark.joins)
        else .symbol n.char :: scan more
    else .plain m.char :: scan rest
termination_by ms => ms.length
decreasing_by
  all_goals simp only [List.length_cons]
  all_goals try have := (more.dropWhile_sublist Mark.joins).length_le
  all_goals omega

variable {c : Char} {t : List Char} {m m' n n' : Mark} {ms ms' more more' : List Mark}

theorem not_blank_of_letter (h : isAsciiLetter c = true) : isBlank c = false := by
  have hletter : 65 ≤ c.toNat ∧ c.toNat ≤ 122 := by
    simp [isAsciiLetter] at h
    omega
  simp [isBlank, blankRanges]
  omega

/-- Behind a blank nothing goes on with a word. -/
theorem marks_true_joins (t : List Char) :
    (marks true t).takeWhile Mark.joins = [] ∧
      (marks true t).dropWhile Mark.joins = marks true t := by
  induction t with
  | nil => exact ⟨rfl, rfl⟩
  | cons c t ih =>
    cases hc : isBlank c with
    | true => rwa [marks_blank hc]
    | false => simp [marks_cons hc, Mark.joins]

/-- The letters in front of a text are the marks that go on with a word. -/
theorem marks_joins (t : List Char) :
    ((marks false t).takeWhile Mark.joins).map (·.char) = t.takeWhile isAsciiLetter ∧
      (marks false t).dropWhile Mark.joins = marks false (t.dropWhile isAsciiLetter) := by
  induction t with
  | nil => exact ⟨rfl, rfl⟩
  | cons c t ih =>
    cases hletter : isAsciiLetter c with
    | true => simp [marks_cons (not_blank_of_letter hletter), Mark.joins, hletter, ih]
    | false =>
      cases hc : isBlank c with
      | true => simp [marks_blank hc, marks_true_joins, hletter]
      | false => simp [marks_cons hc, Mark.joins, hletter]

theorem marks_true_ne_nil (h : t ≠ []) (ht : ∀ c ∈ t.getLast?, isBlank c = false) :
    ∃ d more, marks true t = ⟨true, d⟩ :: more := by
  induction t with
  | nil => exact absurd rfl h
  | cons c t ih =>
    cases hc : isBlank c with
    | false => exact ⟨c, marks false t, marks_cons hc true t⟩
    | true =>
      rw [marks_blank hc]
      cases t with
      | nil =>
        have hlast := ht c rfl
        simp [hc] at hlast
      | cons d t => exact ih (by simp) (by simpa using ht)

theorem backslash_visible : isBlank '\\' = false := by decide

/-- The tokens of a text that does not end in a blank depend on its marks. -/
theorem tokens_eq_scan (spaced : Bool) (ht : ∀ c ∈ t.getLast?, isBlank c = false) :
    tokens t = scan (marks spaced t) := by
  fun_induction tokens t generalizing spaced with
  | case1 => rw [marks, scan]
  | case2 =>
    rw [marks_cons backslash_visible, marks, scan]
    simp
  | case3 d more hletter ih =>
    obtain ⟨hword, hrest⟩ := marks_joins more
    have hlast : ∀ c ∈ (more.dropWhile isAsciiLetter).getLast?, isBlank c = false := by
      intro c hc
      obtain ⟨front, hfront⟩ := more.dropWhile_suffix isAsciiLetter
      refine getLast?_tail (getLast?_tail ht) c ?_
      rw [← hfront, List.getLast?_append, hc]
      rfl
    rw [marks_cons backslash_visible, marks_cons (not_blank_of_letter hletter), scan]
    simp [hletter, hword, hrest, ih false hlast]
  | case4 d more hletter hblank ih =>
    have hne : more ≠ [] := by
      rintro rfl
      simpa [hblank] using ht d rfl
    have hlast := getLast?_tail (getLast?_tail ht)
    obtain ⟨e, rest, hmarks⟩ := marks_true_ne_nil hne hlast
    rw [marks_cons backslash_visible, marks_blank hblank, ih true hlast, hmarks, scan]
    simp
  | case5 d more hletter hblank ih =>
    rw [marks_cons backslash_visible, marks_cons (by simpa using hblank), scan,
      ih false (getLast?_tail (getLast?_tail ht))]
    simp [hletter]
  | case6 c rest hc hblank ih => rw [marks_blank hblank, ih true (getLast?_tail ht)]
  | case7 c rest hc hblank ih =>
    rw [marks_cons (by simpa using hblank), scan.eq_def, ih false (getLast?_tail ht)]
    simp [hc]

/-- Two marked texts show the same, and have the same marks where gaps count. -/
inductive Coincide : Option Char → List Mark → List Mark → Prop
  | nil (previous : Option Char) : Coincide previous [] []
  | cons {previous : Option Char} {m m' : Mark} {ms ms' : List Mark} (hchar : m.char = m'.char)
      (hspaced : (∃ c ∈ previous, separates c m.char = true) → m.spaced = m'.spaced)
      (hrest : Coincide (some m.char) ms ms') : Coincide previous (m :: ms) (m' :: ms')

theorem Coincide.forget {previous : Option Char} (h : Coincide previous ms ms') :
    Coincide none ms ms' := by
  cases h with
  | nil => exact .nil none
  | cons hchar _ hrest => exact .cons hchar (by simp) hrest

/-- Texts that are spelled in the same way coincide. -/
theorem coincide_of_spell {previous : Option Char} (h : AllVisible ms) (h' : AllVisible ms')
    (hsame : spell separates previous ms = spell separates previous ms') :
    Coincide previous ms ms' := by
  induction ms generalizing previous ms' with
  | nil =>
    cases ms' with
    | nil => exact .nil previous
    | cons m' ms' =>
      rw [spell, spell] at hsame
      split_ifs at hsame
  | cons m ms ih =>
    cases ms' with
    | nil =>
      rw [spell, spell] at hsame
      split_ifs at hsame
    | cons m' ms' =>
      obtain ⟨hm, h⟩ := h.cons
      obtain ⟨hm', h'⟩ := h'.cons
      rw [spell, spell] at hsame
      split_ifs at hsame with hkept hkept' hkept'
      · obtain ⟨-, hsame⟩ := List.cons.inj hsame
        obtain ⟨hchar, hsame⟩ := List.cons.inj hsame
        simp only [Bool.and_eq_true] at hkept hkept'
        exact .cons hchar (fun _ => hkept.1.trans hkept'.1.symm) (ih h h' (hchar ▸ hsame))
      -- one spelling goes on with a space, the other with a visible character
      · exact absurd (List.cons.inj hsame).1.symm (ne_space hm')
      · exact absurd (List.cons.inj hsame).1 (ne_space hm)
      · obtain ⟨hchar, hsame⟩ := List.cons.inj hsame
        refine .cons hchar ?_ (ih h h' (hchar ▸ hsame))
        rintro ⟨c, rfl, hkeeps⟩
        have hkeeps' : separates c m'.char = true := by rwa [← hchar]
        simp only [Option.any_some, hkeeps, hkeeps', Bool.and_true] at hkept hkept'
        rw [Bool.eq_false_of_not_eq_true hkept, Bool.eq_false_of_not_eq_true hkept']

/-- Behind a letter, texts that coincide go on with the same letters. -/
theorem Coincide.joins (h : Coincide (some c) ms ms') (hc : isAsciiLetter c = true) :
    (ms.takeWhile Mark.joins).map (·.char) = (ms'.takeWhile Mark.joins).map (·.char) ∧
      Coincide none (ms.dropWhile Mark.joins) (ms'.dropWhile Mark.joins) := by
  induction ms generalizing c ms' with
  | nil =>
    cases h
    exact ⟨rfl, .nil none⟩
  | cons m ms ih =>
    obtain - | ⟨hchar, hspaced, hrest⟩ := h
    rename_i m' ms'
    cases hletter : isAsciiLetter m.char with
    | false =>
      have hjoins : m.joins = false := by simp [Mark.joins, hletter]
      have hjoins' : m'.joins = false := by simp [Mark.joins, ← hchar, hletter]
      simp only [List.takeWhile_cons, List.dropWhile_cons, hjoins, hjoins']
      exact ⟨rfl, .cons hchar (by simp) hrest⟩
    | true =>
      have hsame : m.joins = m'.joins := by
        rw [Mark.joins, Mark.joins, hchar, hspaced ⟨c, rfl, ?_⟩]
        simp [separates, isAsciiAlphanumeric, hc, hletter]
      obtain ⟨hword, hbehind⟩ := ih hrest hletter
      simp only [List.takeWhile_cons, List.dropWhile_cons, hsame]
      cases m'.joins with
      | true => exact ⟨by simp [hchar, hword], hbehind⟩
      | false => exact ⟨rfl, .cons hchar (by simp) hrest⟩

theorem scan_head (m : Mark) (ms : List Mark) :
    ∃ token rest, scan (m :: ms) = token :: rest ∧ token.first = m.char := by
  rw [scan.eq_def]
  dsimp only
  split_ifs with hm
  · cases ms with
    | nil => exact ⟨_, _, rfl, rfl⟩
    | cons n more =>
      dsimp only
      split_ifs
      all_goals exact ⟨_, _, rfl, hm.symm⟩
  · exact ⟨_, _, rfl, rfl⟩

/-- Behind a backslash, a blank in front of a symbol makes a hidden control space. -/
theorem hiddenSpace_scan (hm : m.char = '\\') (hn : isAsciiAlphanumeric n.char = false) :
    HiddenSpace (scan (m :: n :: more)) 0 ↔ n.spaced = true := by
  rw [scan, if_pos hm]
  split_ifs with hspaced hletter
  · obtain ⟨token, rest, hscan, hfirst⟩ := scan_head n more
    refine iff_of_true ⟨rfl, token, ?_, by rw [hfirst, hn]⟩ hspaced
    rw [hscan]
    rfl
  · exact iff_of_false (by simp [HiddenSpace]) hspaced
  · exact iff_of_false (by simp [HiddenSpace]) hspaced

theorem Coincide.exists_cons {previous : Option Char} (h : Coincide previous (m :: ms) ms') :
    ∃ m' rest, ms' = m' :: rest ∧ m.char = m'.char ∧
      ((∃ c ∈ previous, separates c m.char = true) → m.spaced = m'.spaced) ∧
      Coincide (some m.char) ms rest := by
  cases h with
  | cons hchar hspaced hrest => exact ⟨_, _, rfl, hchar, hspaced, hrest⟩

/-- Behind a backslash, the canonical form and the hidden control spaces together tell of blanks. -/
theorem Coincide.command (h : Coincide none (m :: n :: more) ms') (hm : m.char = '\\')
    (hhidden : HiddenSpace (scan (m :: n :: more)) 0 ↔ HiddenSpace (scan ms') 0) :
    ∃ m' n' more', ms' = m' :: n' :: more' ∧ m'.char = '\\' ∧ n.char = n'.char ∧
      n.spaced = n'.spaced ∧ Coincide (some n.char) more more' := by
  obtain ⟨m', rest, rfl, hchar, -, hrest⟩ := h.exists_cons
  obtain ⟨n', more', rfl, hnchar, hspaced, hmore⟩ := hrest.exists_cons
  have hm' : m'.char = '\\' := hchar ▸ hm
  refine ⟨m', n', more', rfl, hm', hnchar, ?_, hmore⟩
  cases hn : isAsciiAlphanumeric n.char with
  | true => exact hspaced ⟨m.char, rfl, by simp [separates, hn, hm]⟩
  | false =>
    rw [hiddenSpace_scan hm hn, hiddenSpace_scan hm' (hnchar ▸ hn)] at hhidden
    exact Bool.eq_iff_iff.2 hhidden

/-- Texts that coincide have the same tokens if the same control spaces are hidden in them. -/
theorem Coincide.scan_eq (h : Coincide none ms ms')
    (hhidden : ∀ place, HiddenSpace (scan ms) place ↔ HiddenSpace (scan ms') place) :
    scan ms = scan ms' := by
  induction ms using scan.induct generalizing ms' with
  | case1 =>
    cases h
    rfl
  | case2 m hm =>
    obtain ⟨m', rest, rfl, hchar, -, hrest⟩ := h.exists_cons
    cases hrest
    rw [scan, if_pos hm, scan, if_pos (hchar ▸ hm), hchar]
  | case3 m hm n more hspaced ih =>
    obtain ⟨m', n', more', rfl, hm', hchar, hsame, hmore⟩ := h.command hm (hhidden 0)
    simp only [scan, if_pos hm, if_pos hm', ← hsame, if_pos hspaced] at hhidden ⊢
    -- the hidden spaces of the rest are those at the places behind the first token
    rw [ih (.cons hchar (by simp) hmore) fun place => hhidden (place + 1)]
  | case4 m hm n more hspaced hletter ih =>
    obtain ⟨m', n', more', rfl, hm', hchar, hsame, hmore⟩ := h.command hm (hhidden 0)
    obtain ⟨hword, hrest⟩ := hmore.joins hletter
    simp only [scan, if_pos hm, if_pos hm', ← hsame, if_neg hspaced, ← hchar, if_pos hletter]
      at hhidden ⊢
    rw [hword, ih hrest fun place => hhidden (place + 1)]
  | case5 m hm n more hspaced hletter ih =>
    obtain ⟨m', n', more', rfl, hm', hchar, hsame, hmore⟩ := h.command hm (hhidden 0)
    simp only [scan, if_pos hm, if_pos hm', ← hsame, if_neg hspaced, ← hchar, if_neg hletter]
      at hhidden ⊢
    rw [ih hmore.forget fun place => hhidden (place + 1)]
  | case6 m rest hm ih =>
    obtain ⟨m', rest', rfl, hchar, -, hrest⟩ := h.exists_cons
    have hm' : m'.char ≠ '\\' := hchar ▸ hm
    rw [scan.eq_def (m :: rest), scan.eq_def (m' :: rest')] at hhidden ⊢
    simp only [if_neg hm, if_neg hm'] at hhidden ⊢
    rw [hchar, ih hrest.forget fun place => hhidden (place + 1)]

theorem trim_of_trimmed {s : String} (h : trimmed s = s) : trim s.toList = s.toList := by
  rw [← String.toList_inj, trimmed, String.toList_ofList] at h
  exact h

/-- A text that is confirmed by its check has the same tokens as the check, unless a control space
is hidden in front of a symbol of one of them and not of the other. -/
theorem tokens_of_verified (primary check model : String) (hprimary : trimmed primary = primary)
    (hcheck : trimmed check = check)
    (hverified : (reconcile primary check model).verified = some true) :
    tokens primary.toList = tokens check.toList ↔
      ∀ place, HiddenSpace (tokens primary.toList) place ↔
        HiddenSpace (tokens check.toList) place := by
  have hlast := getLast?_trim primary.toList
  have hlast' := getLast?_trim check.toList
  rw [trim_of_trimmed hprimary] at hlast
  rw [trim_of_trimmed hcheck] at hlast'
  have hsame := ((verified_reconcile primary check model).1 hverified).2
  rw [normalize_eq_iff, canonical_eq_spell, canonical_eq_spell] at hsame
  have hcoincide := coincide_of_spell (allVisible_marks false _) (allVisible_marks false _) hsame
  rw [tokens_eq_scan false hlast, tokens_eq_scan false hlast']
  refine ⟨fun h place => by rw [h], hcoincide.scan_eq⟩

/-- A control space in front of a plus, and a command that is a plus, confirm each other. -/
theorem hidden_of_verified :
    trimmed "x\\ +y" = "x\\ +y" ∧ trimmed "x\\+y" = "x\\+y" ∧
      (reconcile "x\\ +y" "x\\+y" "m").verified = some true ∧
      tokens "x\\ +y".toList ≠ tokens "x\\+y".toList ∧
      ¬ ∀ place, HiddenSpace (tokens "x\\ +y".toList) place ↔
        HiddenSpace (tokens "x\\+y".toList) place := by
  have hprimary : trimmed "x\\ +y" = "x\\ +y" := by decide
  have hcheck : trimmed "x\\+y" = "x\\+y" := by decide
  have hverified : (reconcile "x\\ +y" "x\\+y" "m").verified = some true := by decide
  have htokens : tokens "x\\ +y".toList = [.plain 'x', .space, .plain '+', .plain 'y'] := by
    simp [tokens, isAsciiLetter, isBlank, blankRanges]
  have htokens' : tokens "x\\+y".toList = [.plain 'x', .symbol '+', .plain 'y'] := by
    simp [tokens, isAsciiLetter, isBlank, blankRanges]
  have hdiffer : tokens "x\\ +y".toList ≠ tokens "x\\+y".toList := by
    rw [htokens, htokens']
    decide
  exact ⟨hprimary, hcheck, hverified, hdiffer,
    fun hhidden => hdiffer ((tokens_of_verified _ _ "m" hprimary hcheck hverified).2 hhidden)⟩

end FormulaOcr.Recognition
