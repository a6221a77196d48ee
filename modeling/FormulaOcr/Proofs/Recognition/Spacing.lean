import FormulaOcr.Proofs.Text.Trimming
import FormulaOcr.Recognition.Result

/-! What the canonical white space of a text keeps. A text is its visible characters and the gaps
between them. Its canonical form has the same visible characters, and of the gaps it keeps those
behind which a letter or digit follows a letter, a digit or a backslash, each as one space. So two
texts are confirmed as one by what they show and by these gaps. -/

namespace FormulaOcr.Recognition

open FormulaOcr.Text

/-- The characters of a text that are no blanks. -/
def visible (t : List Char) : List Char :=
  t.filter fun c => !isBlank c

/-- Blanks stand in a text between some of its visible characters and the rest of them. -/
def Gap (t front behind : List Char) : Prop :=
  ∃ before blank after, t = before ++ blank :: after ∧ isBlank blank = true ∧
    visible before = front ∧ visible after = behind

/-- Blanks between these two characters count. -/
def separates (c d : Char) : Bool :=
  isAsciiAlphanumeric d && (isAsciiAlphanumeric c || c = '\\')

/-- A gap in which blanks count. -/
def Significant (front behind : List Char) : Prop :=
  ∃ c ∈ front.getLast?, ∃ d ∈ behind.head?, separates c d = true

/-- All blanks of a text are spaces, with a visible character behind each. -/
def SingleSpaced (t : List Char) : Prop :=
  ∀ before blank after, t = before ++ blank :: after → isBlank blank = true →
    blank = ' ' ∧ ∀ c ∈ after.head?, isBlank c = false

variable {t u front behind : List Char} {c d : Char}

@[simp] theorem visible_nil : visible [] = [] := rfl

theorem visible_blank (h : isBlank c = true) (t : List Char) : visible (c :: t) = visible t := by
  simp [visible, h]

theorem visible_cons (h : isBlank c = false) (t : List Char) :
    visible (c :: t) = c :: visible t := by
  simp [visible, h]

theorem not_gap_nil : ¬ Gap [] front behind := by
  rintro ⟨before, blank, after, h, -⟩
  simp at h

theorem gap_blank (h : isBlank c = true) :
    Gap (c :: t) front behind ↔ (front = [] ∧ visible t = behind) ∨ Gap t front behind := by
  constructor
  · rintro ⟨_ | ⟨b, before⟩, blank, after, ht, hblank, hfront, hbehind⟩
    · obtain ⟨rfl, rfl⟩ := List.cons.inj ht
      exact .inl ⟨hfront.symm, hbehind⟩
    · obtain ⟨rfl, rfl⟩ := List.cons.inj ht
      rw [visible_blank h] at hfront
      exact .inr ⟨before, blank, after, rfl, hblank, hfront, hbehind⟩
  · rintro (⟨rfl, hbehind⟩ | ⟨before, blank, after, rfl, hblank, hfront, hbehind⟩)
    · exact ⟨[], c, t, rfl, h, rfl, hbehind⟩
    · exact ⟨c :: before, blank, after, rfl, hblank, by rwa [visible_blank h], hbehind⟩

theorem gap_cons (h : isBlank c = false) :
    Gap (c :: t) front behind ↔ ∃ rest, front = c :: rest ∧ Gap t rest behind := by
  constructor
  · rintro ⟨_ | ⟨b, before⟩, blank, after, ht, hblank, hfront, hbehind⟩
    · obtain ⟨rfl, rfl⟩ := List.cons.inj ht
      simp [h] at hblank
    · obtain ⟨rfl, rfl⟩ := List.cons.inj ht
      rw [visible_cons h] at hfront
      exact ⟨_, hfront.symm, before, blank, after, rfl, hblank, rfl, hbehind⟩
  · rintro ⟨rest, rfl, before, blank, after, rfl, hblank, hfront, hbehind⟩
    exact ⟨c :: before, blank, after, rfl, hblank, by rw [visible_cons h, hfront], hbehind⟩

theorem SingleSpaced.tail (h : SingleSpaced (c :: t)) : SingleSpaced t :=
  fun before blank after ht => h (c :: before) blank after (by rw [ht]; rfl)

/-- A gap in front of everything begins with a blank. -/
theorem Gap.head (h : Gap t [] behind) : ∃ c ∈ t.head?, isBlank c = true := by
  obtain ⟨_ | ⟨b, before⟩, blank, after, rfl, hblank, hfront, -⟩ := h
  · exact ⟨blank, rfl, hblank⟩
  · refine ⟨b, rfl, ?_⟩
    by_contra hb
    rw [visible_cons (by simpa using hb)] at hfront
    simp at hfront

/-- Behind a blank there is no gap in front of everything. -/
theorem SingleSpaced.not_gap (h : SingleSpaced (c :: t)) (hc : isBlank c = true) :
    ¬ Gap t [] behind := by
  intro hgap
  obtain ⟨d, hd, hblank⟩ := hgap.head
  have hvisible := (h [] c t rfl hc).2 d hd
  simp [hblank] at hvisible

/-- Where blanks are single spaces, the visible characters and the gaps make the text. -/
theorem SingleSpaced.eq_of_gaps (ht : SingleSpaced t) (hu : SingleSpaced u)
    (hvisible : visible t = visible u)
    (hgaps : ∀ front behind, Gap t front behind ↔ Gap u front behind) : t = u := by
  induction t generalizing u with
  | nil =>
    cases u with
    | nil => rfl
    | cons d u =>
      cases hd : isBlank d with
      | true => exact absurd ((hgaps _ _).2 ((gap_blank hd).2 (.inl ⟨rfl, rfl⟩))) not_gap_nil
      | false =>
        rw [visible_cons hd] at hvisible
        simp at hvisible
  | cons c t ih =>
    cases hc : isBlank c with
    | true =>
      have hfront : Gap u [] (visible t) := (hgaps _ _).1 ((gap_blank hc).2 (.inl ⟨rfl, rfl⟩))
      obtain ⟨d, hd, hblank⟩ := hfront.head
      obtain ⟨u, rfl⟩ := List.head?_eq_some_iff.1 hd
      rw [visible_blank hc, visible_blank hblank] at hvisible
      have htail (front behind : List Char) : Gap t front behind ↔ Gap u front behind := by
        have hsame := hgaps front behind
        rw [gap_blank hc, gap_blank hblank, hvisible] at hsame
        cases front with
        | nil => exact iff_of_false (ht.not_gap hc) (hu.not_gap hblank)
        | cons => simpa using hsame
      rw [(ht [] c t rfl hc).1, (hu [] d u rfl hblank).1, ih ht.tail hu.tail hvisible htail]
    | false =>
      rw [visible_cons hc] at hvisible
      cases u with
      | nil => simp at hvisible
      | cons d u =>
        cases hd : isBlank d with
        | true =>
          have hfront := (hgaps _ _).2 ((gap_blank hd).2 (.inl ⟨rfl, rfl⟩))
          obtain ⟨rest, hrest, -⟩ := (gap_cons hc).1 hfront
          simp at hrest
        | false =>
          rw [visible_cons hd] at hvisible
          obtain ⟨rfl, hrest⟩ := List.cons.inj hvisible
          have htail (front behind : List Char) : Gap t front behind ↔ Gap u front behind := by
            simpa [gap_cons hc] using hgaps (c :: front) behind
          rw [ih ht.tail hu.tail hrest htail]

/-! Texts as marked characters. -/

/-- A visible character, and whether blanks stand in front of it. -/
structure Mark where
  spaced : Bool
  char : Char

/-- The visible characters of a text; `spaced` says that a blank stands in front of the text. -/
def marks (spaced : Bool) : List Char → List Mark
  | [] => []
  | c :: rest => if isBlank c then marks true rest else ⟨spaced, c⟩ :: marks false rest

/-- The text of marked characters behind `previous`, with a space for the blanks between those
characters that are to be kept apart. -/
def spell (keeps : Char → Char → Bool) (previous : Option Char) : List Mark → List Char
  | [] => []
  | m :: rest =>
    if m.spaced && previous.any (keeps · m.char) then
      ' ' :: m.char :: spell keeps (some m.char) rest
    else m.char :: spell keeps (some m.char) rest

/-- No mark is on a blank. -/
def AllVisible (ms : List Mark) : Prop :=
  ∀ m ∈ ms, isBlank m.char = false

theorem marks_blank (h : isBlank c = true) (spaced : Bool) (t : List Char) :
    marks spaced (c :: t) = marks true t := by
  simp [marks, h]

theorem marks_cons (h : isBlank c = false) (spaced : Bool) (t : List Char) :
    marks spaced (c :: t) = ⟨spaced, c⟩ :: marks false t := by
  simp [marks, h]

theorem allVisible_marks (spaced : Bool) (t : List Char) : AllVisible (marks spaced t) := by
  induction t generalizing spaced with
  | nil => simp [marks, AllVisible]
  | cons c t ih =>
    cases hc : isBlank c with
    | true =>
      rw [marks_blank hc]
      exact ih true
    | false =>
      rw [marks_cons hc]
      exact List.forall_mem_cons.2 ⟨hc, ih false⟩

theorem map_marks (spaced : Bool) (t : List Char) : (marks spaced t).map (·.char) = visible t := by
  induction t generalizing spaced with
  | nil => rfl
  | cons c t ih =>
    cases hc : isBlank c with
    | true => rw [marks_blank hc, visible_blank hc, ih]
    | false => rw [marks_cons hc, visible_cons hc, List.map_cons, ih]

/-- Blanks at the end of a text mark nothing. -/
theorem marks_append (spaced : Bool) (t : List Char) {blanks : List Char}
    (h : ∀ b ∈ blanks, isBlank b = true) : marks spaced (t ++ blanks) = marks spaced t := by
  induction t generalizing spaced with
  | nil =>
    induction blanks generalizing spaced with
    | nil => rfl
    | cons b blanks ih =>
      obtain ⟨hb, h⟩ := List.forall_mem_cons.1 h
      exact (marks_blank hb spaced _).trans (ih h true)
  | cons c t ih => simp [marks, ih]

/-! The three passes over a text. -/

variable {keeps keeps' : Char → Char → Bool} {previous : Option Char} {ms : List Mark} {m : Mark}

theorem AllVisible.cons (h : AllVisible (m :: ms)) : isBlank m.char = false ∧ AllVisible ms :=
  List.forall_mem_cons.1 h

theorem ne_space (h : isBlank c = false) : c ≠ ' ' := by
  rintro rfl
  revert h
  decide

/-- Only what is kept between visible characters makes a difference. -/
theorem spell_congr (h : AllVisible ms) (hprevious : ∀ c ∈ previous, isBlank c = false)
    (hkeeps : ∀ c d, isBlank c = false → isBlank d = false → keeps c d = keeps' c d) :
    spell keeps previous ms = spell keeps' previous ms := by
  induction ms generalizing previous with
  | nil => rfl
  | cons m ms ih =>
    obtain ⟨hm, h⟩ := h.cons
    have hsame : previous.any (keeps · m.char) = previous.any (keeps' · m.char) := by
      cases previous with
      | none => rfl
      | some c => exact hkeeps c m.char (hprevious c rfl) hm
    rw [spell, spell, hsame, ih h (by simpa using hm)]

theorem dropSpaceBefore_cons (h : c ≠ ' ') (t : List Char) :
    dropSpaceBefore (c :: t) = c :: dropSpaceBefore t := by
  cases t with
  | nil => rfl
  | cons d t => simp [dropSpaceBefore, h]

/-- The second pass keeps spaces in front of letters and digits. -/
theorem dropSpaceBefore_spell (h : AllVisible ms) :
    dropSpaceBefore (spell keeps previous ms) =
      spell (fun c d => keeps c d && isAsciiAlphanumeric d) previous ms := by
  induction ms generalizing previous with
  | nil => rfl
  | cons m ms ih =>
    obtain ⟨hm, h⟩ := h.cons
    have hrest := dropSpaceBefore_cons (ne_space hm) (spell keeps (some m.char) ms)
    rw [ih h] at hrest
    have hany : previous.any (fun c => keeps c m.char && isAsciiAlphanumeric m.char) =
        (previous.any (keeps · m.char) && isAsciiAlphanumeric m.char) := by
      cases previous <;> simp
    rw [spell, spell, hany, ← Bool.and_assoc]
    cases m.spaced && previous.any (keeps · m.char) with
    | false => simpa using hrest
    | true => cases hd : isAsciiAlphanumeric m.char <;> simp [dropSpaceBefore, hd, hrest]

/-- The third pass keeps spaces behind all characters but symbols. -/
theorem dropSpaceAfter_spell (h : AllVisible ms) :
    dropSpaceAfter previous (spell keeps previous ms) =
      spell (fun c d => keeps c d && !isSymbol c) previous ms := by
  induction ms generalizing previous with
  | nil => rfl
  | cons m ms ih =>
    obtain ⟨hm, h⟩ := h.cons
    have hrest (before : Option Char) :
        dropSpaceAfter before (m.char :: spell keeps (some m.char) ms) =
          m.char :: spell (fun c d => keeps c d && !isSymbol c) (some m.char) ms := by
      rw [dropSpaceAfter, if_neg (by simp [ne_space hm]), ih h]
    have hany : previous.any (fun c => keeps c m.char && !isSymbol c) =
        (previous.any (keeps · m.char) && !previous.any isSymbol) := by
      cases previous <;> simp
    rw [spell, spell, hany, ← Bool.and_assoc]
    cases m.spaced && previous.any (keeps · m.char) with
    | false => simpa using hrest previous
    | true =>
      rw [if_pos rfl, dropSpaceAfter, hrest]
      cases previous.any isSymbol <;> simp

theorem getLast?_tail {p : Char → Prop} (h : ∀ b ∈ (c :: t).getLast?, p b) :
    ∀ b ∈ t.getLast?, p b := by
  intro b hb
  refine h b ?_
  rw [List.getLast?_cons, hb]
  rfl

/-- Behind a character, the first pass keeps all gaps of a text that does not end in a blank. -/
theorem collapse_spell (ht : ∀ b ∈ t.getLast?, isBlank b = false) (c : Char) :
    spell (fun _ _ => true) (some c) (marks false t) = collapse false t ∧
      (t ≠ [] → spell (fun _ _ => true) (some c) (marks true t) = ' ' :: collapse true t) := by
  induction t generalizing c with
  | nil => exact ⟨rfl, fun h => absurd rfl h⟩
  | cons d t ih =>
    have hlast := getLast?_tail ht
    cases hd : isBlank d with
    | true =>
      have hne : t ≠ [] := by
        rintro rfl
        simpa [hd] using ht d rfl
      have hspaced := (ih hlast c).2 hne
      constructor
      · rw [marks_blank hd, hspaced]
        simp [collapse, hd]
      · intro _
        rw [marks_blank hd, hspaced]
        simp [collapse, hd]
    | false =>
      have hrest := (ih hlast d).1
      constructor
      · rw [marks_cons hd]
        simp [spell, collapse, hd, hrest]
      · intro _
        rw [marks_cons hd]
        simp [spell, collapse, hd, hrest]

/-- In front of everything there is nothing to be kept apart from. -/
theorem spell_marks (spaced spaced' : Bool) (t : List Char) :
    spell keeps none (marks spaced t) = spell keeps none (marks spaced' t) := by
  cases t with
  | nil => rfl
  | cons c t => cases hc : isBlank c <;> simp [marks, hc, spell]

theorem spell_trimStart (spaced : Bool) (t : List Char) :
    spell keeps none (marks spaced (trimStart t)) = spell keeps none (marks spaced t) := by
  induction t with
  | nil => rfl
  | cons c t ih =>
    cases hc : isBlank c with
    | true =>
      rw [trimStart, List.dropWhile_cons_of_pos hc, marks_blank hc, spell_marks true spaced]
      exact ih
    | false => rw [trimStart, List.dropWhile_cons_of_neg (by simp [hc])]

theorem marks_trimEnd (spaced : Bool) (t : List Char) :
    marks spaced (trimEnd t) = marks spaced t := by
  have hparts : trimEnd t ++ t.rtakeWhile isBlank = t := List.rdropWhile_append_rtakeWhile
  conv_rhs => rw [← hparts]
  exact (marks_append spaced _ fun b hb => List.mem_rtakeWhile_imp hb).symm

theorem not_isSymbol (h : isBlank c = false) :
    (!isSymbol c) = (isAsciiAlphanumeric c || decide (c = '\\')) := by
  have hspace : (c != ' ') = true := by simpa using ne_space h
  rw [isSymbol, hspace]
  cases isAsciiAlphanumeric c <;> by_cases hc : c = '\\' <;> simp [hc]

/-- The first pass keeps all gaps between visible characters. -/
theorem collapse_trim (t : List Char) :
    collapse false (trim t) = spell (fun _ _ => true) none (marks false t) := by
  rw [← spell_trimStart, ← marks_trimEnd, ← trim]
  have hhead := head?_trim t
  have hlast := getLast?_trim t
  generalize trim t = u at hhead hlast
  cases u with
  | nil => rfl
  | cons c u =>
    have hc : isBlank c = false := hhead c rfl
    rw [marks_cons hc]
    simp [spell, collapse, hc, (collapse_spell (getLast?_tail hlast) c).1]

/-- A text in canonical form is its visible characters with a space for each significant gap. -/
theorem canonical_eq_spell (t : List Char) :
    canonical t = spell separates none (marks false t) := by
  have hmarks := allVisible_marks false t
  rw [canonical, collapse_trim, dropSpaceBefore_spell hmarks, dropSpaceAfter_spell hmarks]
  refine spell_congr hmarks (by simp) fun c d hc _ => ?_
  rw [not_isSymbol hc, Bool.true_and, separates]

/-! What a spelled text shows, and which gaps it has. -/

theorem visible_spell (h : AllVisible ms) :
    visible (spell keeps previous ms) = ms.map (·.char) := by
  induction ms generalizing previous with
  | nil => rfl
  | cons m ms ih =>
    obtain ⟨hm, h⟩ := h.cons
    rw [spell]
    split_ifs
    · rw [visible_blank (by decide), visible_cons hm, ih h, List.map_cons]
    · rw [visible_cons hm, ih h, List.map_cons]

theorem singleSpaced_nil : SingleSpaced [] := by
  intro before blank after h
  simp at h

theorem SingleSpaced.cons (hc : isBlank c = false) (ht : SingleSpaced t) :
    SingleSpaced (c :: t) := by
  rintro (_ | ⟨b, before⟩) blank after h hblank
  · obtain ⟨rfl, rfl⟩ := List.cons.inj h
    simp [hc] at hblank
  · exact ht before blank after (List.cons.inj h).2 hblank

theorem SingleSpaced.space (hc : isBlank c = false) (ht : SingleSpaced (c :: t)) :
    SingleSpaced (' ' :: c :: t) := by
  rintro (_ | ⟨b, before⟩) blank after h hblank
  · obtain ⟨rfl, rfl⟩ := List.cons.inj h
    exact ⟨rfl, by simpa using hc⟩
  · exact ht before blank after (List.cons.inj h).2 hblank

theorem singleSpaced_spell (h : AllVisible ms) : SingleSpaced (spell keeps previous ms) := by
  induction ms generalizing previous with
  | nil => exact singleSpaced_nil
  | cons m ms ih =>
    obtain ⟨hm, h⟩ := h.cons
    have hrest : SingleSpaced (m.char :: spell keeps (some m.char) ms) := (ih h).cons hm
    rw [spell]
    split_ifs
    · exact hrest.space hm
    · exact hrest

/-- A mark says that there are blanks between some of the characters and the rest of them. -/
def Marked (ms : List Mark) (front behind : List Char) : Prop :=
  ∃ before m after, ms = before ++ m :: after ∧ m.spaced = true ∧
    before.map (·.char) = front ∧ m.char :: after.map (·.char) = behind

theorem not_marked_nil : ¬ Marked [] front behind := by
  rintro ⟨before, m, after, h, -⟩
  simp at h

theorem marked_cons :
    Marked (m :: ms) front behind ↔
      (m.spaced = true ∧ front = [] ∧ m.char :: ms.map (·.char) = behind) ∨
        ∃ rest, front = m.char :: rest ∧ Marked ms rest behind := by
  constructor
  · rintro ⟨_ | ⟨n, before⟩, found, after, h, hspaced, hfront, hbehind⟩
    · obtain ⟨rfl, rfl⟩ := List.cons.inj h
      exact .inl ⟨hspaced, hfront.symm, hbehind⟩
    · obtain ⟨rfl, rfl⟩ := List.cons.inj h
      exact .inr ⟨_, hfront.symm, before, found, after, rfl, hspaced, rfl, hbehind⟩
  · rintro (⟨hspaced, rfl, hbehind⟩ |
      ⟨rest, rfl, before, found, after, rfl, hspaced, hfront, hbehind⟩)
    · exact ⟨[], m, ms, rfl, hspaced, rfl, hbehind⟩
    · exact ⟨m :: before, found, after, rfl, hspaced, by rw [List.map_cons, hfront], hbehind⟩

/-- The gaps in front of visible characters are marked. -/
theorem marked_marks (spaced : Bool) (t : List Char) (hbehind : behind ≠ []) :
    Marked (marks spaced t) front behind ↔
      Gap t front behind ∨ (spaced = true ∧ front = [] ∧ visible t = behind) := by
  induction t generalizing spaced front with
  | nil => simp [marks, not_marked_nil, not_gap_nil, hbehind.symm]
  | cons c t ih =>
    cases hc : isBlank c with
    | true =>
      rw [marks_blank hc, ih, gap_blank hc, visible_blank hc]
      tauto
    | false =>
      simp only [marks_cons hc, marked_cons, map_marks, ih, gap_cons hc, visible_cons hc,
        Bool.false_eq_true, false_and, or_false]
      exact or_comm

theorem getLast?_or (c : Char) (t : List Char) :
    (c :: t).getLast?.or previous = t.getLast?.or (some c) := by
  rw [List.getLast?_cons]
  cases t.getLast? <;> rfl

/-- Those gaps are spelled that are marked and are to be kept. -/
theorem gap_spell (h : AllVisible ms) :
    Gap (spell keeps previous ms) front behind ↔
      Marked ms front behind ∧
        ∃ c ∈ front.getLast?.or previous, ∃ d ∈ behind.head?, keeps c d = true := by
  induction ms generalizing previous front with
  | nil => simp [spell, not_gap_nil, not_marked_nil]
  | cons m ms ih =>
    obtain ⟨hm, h⟩ := h.cons
    have hrest : Gap (m.char :: spell keeps (some m.char) ms) front behind ↔
        ∃ rest, front = m.char :: rest ∧ Marked ms rest behind ∧
          ∃ c ∈ front.getLast?.or previous, ∃ d ∈ behind.head?, keeps c d = true := by
      rw [gap_cons hm]
      constructor
      · rintro ⟨rest, rfl, hgap⟩
        rw [getLast?_or]
        exact ⟨rest, rfl, (ih h).1 hgap⟩
      · rintro ⟨rest, rfl, hgap⟩
        rw [getLast?_or] at hgap
        exact ⟨rest, rfl, (ih h).2 hgap⟩
    have hkept : (m.spaced && previous.any (keeps · m.char)) = true ↔
        m.spaced = true ∧ ∃ c ∈ previous, keeps c m.char = true := by
      rw [Bool.and_eq_true, Option.any_eq_true]
      rfl
    rw [spell, marked_cons]
    split_ifs with hspace
    · obtain ⟨hspaced, c, hc, hkeeps⟩ := hkept.1 hspace
      rw [gap_blank (by decide), hrest, visible_cons hm, visible_spell h]
      constructor
      · rintro (⟨rfl, rfl⟩ | ⟨rest, rfl, hmarked, hlast⟩)
        · exact ⟨.inl ⟨hspaced, rfl, rfl⟩, c, hc, m.char, rfl, hkeeps⟩
        · exact ⟨.inr ⟨rest, rfl, hmarked⟩, hlast⟩
      · rintro ⟨⟨-, rfl, rfl⟩ | ⟨rest, rfl, hmarked⟩, hlast⟩
        · exact .inl ⟨rfl, rfl⟩
        · exact .inr ⟨rest, rfl, hmarked, hlast⟩
    · rw [hrest]
      constructor
      · rintro ⟨rest, rfl, hmarked, hlast⟩
        exact ⟨.inr ⟨rest, rfl, hmarked⟩, hlast⟩
      · rintro ⟨⟨hspaced, rfl, rfl⟩ | ⟨rest, rfl, hmarked⟩, hlast⟩
        · obtain ⟨c, hc, d, hd, hkeeps⟩ := hlast
          obtain rfl := Option.some.inj hd
          exact absurd (hkept.2 ⟨hspaced, c, hc, hkeeps⟩) hspace
        · exact ⟨rest, rfl, hmarked, hlast⟩

/-! The canonical form. -/

theorem visible_canonical (t : List Char) : visible (canonical t) = visible t := by
  rw [canonical_eq_spell, visible_spell (allVisible_marks false t), map_marks]

theorem singleSpaced_canonical (t : List Char) : SingleSpaced (canonical t) := by
  rw [canonical_eq_spell]
  exact singleSpaced_spell (allVisible_marks false t)

theorem gap_canonical (t front behind : List Char) :
    Gap (canonical t) front behind ↔ Gap t front behind ∧ Significant front behind := by
  have hsignificant : Significant front behind ↔
      ∃ c ∈ front.getLast?.or none, ∃ d ∈ behind.head?, separates c d = true := by
    rw [Option.or_none, Significant]
  rw [canonical_eq_spell, gap_spell (allVisible_marks false t), hsignificant]
  refine and_congr_left fun ⟨_, _, d, hd, _⟩ => ?_
  have hbehind : behind ≠ [] := by
    rintro rfl
    simp at hd
  simp [marked_marks false t hbehind]

/-- The three facts above make the canonical form. -/
theorem eq_canonical_iff (t u : List Char) :
    u = canonical t ↔ visible u = visible t ∧ SingleSpaced u ∧
      ∀ front behind, Gap u front behind ↔ Gap t front behind ∧ Significant front behind := by
  constructor
  · rintro rfl
    exact ⟨visible_canonical t, singleSpaced_canonical t, gap_canonical t⟩
  · rintro ⟨hvisible, hspaced, hgaps⟩
    refine hspaced.eq_of_gaps (singleSpaced_canonical t) ?_ fun front behind => ?_
    · rw [hvisible, visible_canonical]
    · rw [hgaps, gap_canonical]

theorem canonical_eq_iff (t u : List Char) :
    canonical t = canonical u ↔ visible t = visible u ∧
      ∀ front behind, Significant front behind → (Gap t front behind ↔ Gap u front behind) := by
  rw [eq_canonical_iff, visible_canonical]
  refine and_congr_right fun _ => ?_
  rw [and_iff_right (singleSpaced_canonical t)]
  refine forall₂_congr fun front behind => ?_
  rw [gap_canonical, and_congr_left_iff]

theorem canonical_canonical (t : List Char) : canonical (canonical t) = canonical t := by
  refine ((eq_canonical_iff (canonical t) (canonical t)).2 ⟨rfl, singleSpaced_canonical t, ?_⟩).symm
  intro front behind
  rw [gap_canonical, and_assoc, and_self]

theorem toList_normalize (s : String) : (normalize s).toList = canonical s.toList :=
  String.toList_ofList

theorem normalize_eq_iff (s r : String) :
    normalize s = normalize r ↔ canonical s.toList = canonical r.toList := by
  rw [← String.toList_inj, toList_normalize, toList_normalize]

theorem verified_reconcile (primary secondary model : String) :
    (reconcile primary secondary model).verified = some true ↔
      secondary ≠ "" ∧ normalize primary = normalize secondary := by
  unfold reconcile
  split_ifs with hempty hsame
  · simp [hempty]
  · simp [hempty, hsame]
  · simp [hsame]

/-- The canonical form of a text is the one text with the same visible characters in which blanks
are single spaces and stand just where a gap of the text is significant. A transcription is
confirmed by a check that shows the same characters with the same significant gaps. What is in
canonical form stays as it is. -/
theorem normalize_gaps (s : String) :
    (∀ u : String, u = normalize s ↔ visible u.toList = visible s.toList ∧ SingleSpaced u.toList ∧
      ∀ front behind,
        Gap u.toList front behind ↔ Gap s.toList front behind ∧ Significant front behind) ∧
    (∀ check model : String, (reconcile s check model).verified = some true ↔
      check ≠ "" ∧ visible s.toList = visible check.toList ∧
        ∀ front behind, Significant front behind →
          (Gap s.toList front behind ↔ Gap check.toList front behind)) ∧
    normalize (normalize s) = normalize s := by
  refine ⟨fun u => ?_, fun check model => ?_, ?_⟩
  · rw [← eq_canonical_iff, ← toList_normalize, String.toList_inj]
  · rw [verified_reconcile, normalize_eq_iff, canonical_eq_iff]
  · rw [normalize_eq_iff, toList_normalize, canonical_canonical]

/-- A space behind a command stays if a letter follows it, and goes with the symbols. -/
example : canonical "\\alpha  b + \\, c".toList = "\\alpha b+\\,c".toList := by decide

end FormulaOcr.Recognition
