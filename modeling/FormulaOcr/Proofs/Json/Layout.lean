import FormulaOcr.Proofs.Json.RoundTrip
import FormulaOcr.Text.Line

/-! The look of a written text: the characters that it is made of, and the lines of an object that
is written with one member to a line. -/

namespace FormulaOcr.Json

/-! Characters. -/

/-- A line feed, or a character of ASCII that is no control character. -/
def isPlain (c : Char) : Bool :=
  c == '\n' || (0x20 ≤ c.toNat && c.toNat < 0x7F)

/-- A text of plain characters, and of others beyond ASCII if these are not spelled as escapes. -/
def Legible (ascii : Bool) (t : List Char) : Prop :=
  ∀ c ∈ t, isPlain c = true ∨ ascii = false ∧ 0x7F ≤ c.toNat

section Legible

variable {ascii : Bool} {t u : List Char}

theorem legible_of_plain (h : t.all isPlain = true) : Legible ascii t :=
  fun c hc => .inl (List.all_eq_true.1 h c hc)

theorem legible_append : Legible ascii (t ++ u) ↔ Legible ascii t ∧ Legible ascii u :=
  List.forall_mem_append

theorem legible_cons {c : Char} (hc : isPlain c = true) :
    Legible ascii (c :: t) ↔ Legible ascii t :=
  List.forall_mem_cons.trans (and_iff_right (.inl hc))

theorem legible_unicodeEscape (n : ℕ) : Legible ascii (unicodeEscape n) := by
  have hdigit (n : ℕ) : isPlain (Encoding.hexDigit n) = true := by
    have h : ∀ d < 16, isPlain (Encoding.hexDigit d) = true := by decide
    rw [hexDigit_mod]
    exact h _ (Nat.mod_lt _ (by norm_num))
  rw [unicodeEscape, hexDigits_four]
  apply legible_of_plain
  simp only [List.all_cons, hdigit]
  decide

theorem legible_writeChar (ascii : Bool) (c : Char) : Legible ascii (writeChar ascii c) := by
  unfold writeChar
  -- seven characters have a spelling by a letter, and it is the same in every layout
  split_ifs with h1 h2 h3 h4 h5 h6 h7 h8
  iterate 7 · exact legible_of_plain (by decide)
  · unfold escape
    split_ifs
    · exact legible_unicodeEscape _
    · exact legible_append.2 ⟨legible_unicodeEscape _, legible_unicodeEscape _⟩
  · simp only [Bool.or_eq_true, Bool.and_eq_true, decide_eq_true_eq, not_or, not_and, not_lt,
      not_le] at h8
    refine List.forall_mem_singleton.2 ?_
    rcases lt_or_ge c.toNat 0x7F with hlow | hhigh
    · simp [isPlain, h8.1, hlow]
    · exact .inr ⟨Bool.eq_false_iff.2 fun hascii => absurd (h8.2 hascii) (not_lt.2 hhigh), hhigh⟩

theorem legible_writeString (ascii : Bool) (s : String) : Legible ascii (writeString ascii s) := by
  have hchars : Legible ascii (s.toList.flatMap (writeChar ascii)) := by
    intro c hc
    obtain ⟨x, -, hx⟩ := List.mem_flatMap.1 hc
    exact legible_writeChar ascii x c hx
  rw [writeString, legible_append, legible_cons (by decide)]
  exact ⟨hchars, legible_of_plain (by decide)⟩

theorem legible_number {j : Json} (h : takeNumber t = some (j, [])) : Legible ascii t := by
  intro c hc
  left
  have hnumber := takeNumber_chars h c hc
  rw [continuesNumber, Bool.or_eq_true, List.contains_iff_mem] at hnumber
  rcases hnumber with hdigit | hpart
  · rw [Text.isAsciiDigit, Bool.and_eq_true, decide_eq_true_eq, decide_eq_true_eq] at hdigit
    have hlow : 0x20 ≤ c.toNat := le_trans (by decide) hdigit.1
    have hhigh : c.toNat < 0x7F := lt_of_le_of_lt hdigit.2 (by decide)
    simp [isPlain, hlow, hhigh]
  · have hparts : ['.', 'e', 'E', '+', '-'].all isPlain = true := by decide
    exact List.all_eq_true.1 hparts c hpart

theorem legible_break (l : Layout) (level : ℕ) : Legible ascii (l.break level) := by
  unfold Layout.break
  split
  · exact legible_of_plain rfl
  · rw [legible_cons (by decide)]
    intro c hc
    rw [List.eq_of_mem_replicate hc]
    exact .inl (by decide)

theorem legible_comma (l : Layout) (level : ℕ) : Legible ascii (l.comma level) := by
  unfold Layout.comma
  split
  · exact legible_of_plain (by decide)
  · exact (legible_cons (by decide)).2 (legible_break l level)

end Legible

mutual

theorem legible_value (l : Layout) :
    ∀ (j : Json) (level : ℕ), Legible l.ascii (writeValue l level j)
  | .null, _ => by
    rw [writeValue]
    exact legible_of_plain (by decide)
  | .bool b, _ => by
    cases b <;>
      · rw [writeValue]
        exact legible_of_plain (by decide)
  | .int n, _ => by
    rw [writeValue]
    exact legible_number (takeNumber_writeInt n)
  | .float x, _ => by
    rw [writeValue]
    cases x with
    | nan => exact legible_of_plain (by decide)
    | infinity negative => cases negative <;> exact legible_of_plain (by decide)
    | finite negative units => exact legible_number (takeNumber_respelled negative units)
  | .str s, _ => by
    rw [writeValue]
    exact legible_writeString l.ascii s
  | .arr [], _ => by
    rw [writeValue]
    exact legible_of_plain (by decide)
  | .arr (item :: items), level => by
    simp only [writeValue, legible_append, legible_cons (c := '[') rfl, legible_break,
      legible_value l item (level + 1), legible_items l items (level + 1), true_and]
    exact legible_of_plain (by decide)
  | .obj [], _ => by
    rw [writeValue]
    exact legible_of_plain (by decide)
  | .obj (member :: members), level => by
    simp only [writeValue, legible_append, legible_cons (c := '\x7b') rfl, legible_break,
      legible_member l member (level + 1), legible_members l members (level + 1), true_and]
    exact legible_of_plain (by decide)

theorem legible_items (l : Layout) :
    ∀ (items : List Json) (level : ℕ), Legible l.ascii (writeItems l level items)
  | [], _ => legible_of_plain rfl
  | item :: items, level => by
    simp only [writeItems, legible_append, legible_comma, legible_value l item level,
      legible_items l items level, and_self]

theorem legible_members (l : Layout) :
    ∀ (members : List (String × Json)) (level : ℕ), Legible l.ascii (writeMembers l level members)
  | [], _ => legible_of_plain rfl
  | member :: members, level => by
    simp only [writeMembers, legible_append, legible_comma, legible_member l member level,
      legible_members l members level, and_self]

theorem legible_member (l : Layout) :
    ∀ (member : String × Json) (level : ℕ), Legible l.ascii (writeMember l level member)
  | (name, value), level => by
    simp only [writeMember, legible_append, legible_writeString, legible_value l value level,
      and_true, true_and]
    exact legible_of_plain (by decide)

end

/-- A written text has line feeds and no other control characters, and in an ASCII layout it has no
characters outside of ASCII. -/
theorem legible_write (l : Layout) (j : Json) : Legible l.ascii (write l j) :=
  legible_value l j 0

/-- Only quotes, backslashes and control characters have a spelling of their own. -/
theorem writeChar_regular {c : Char} (h : 0x20 ≤ c.toNat) (hquote : c ≠ '"') (hslash : c ≠ '\\')
    (ascii : Bool) :
    writeChar ascii c = if ascii && 0x7F ≤ c.toNat then escape c else [c] := by
  have hne {x : Char} (hx : x.toNat < 0x20) : c ≠ x := by
    rintro rfl
    exact absurd h (not_le.2 hx)
  have hcontrol : c ≠ '\n' ∧ c ≠ '\r' ∧ c ≠ '\t' ∧ c ≠ '\x08' ∧ c ≠ '\x0c' :=
    ⟨hne (by decide), hne (by decide), hne (by decide), hne (by decide), hne (by decide)⟩
  simp [writeChar, hquote, hslash, hcontrol, not_lt.2 h]

/-- Where escapes are not asked for, all other characters stand for themselves. -/
theorem writeChar_verbatim {c : Char} (h : 0x20 ≤ c.toNat) (hquote : c ≠ '"')
    (hslash : c ≠ '\\') : writeChar false c = [c] := by
  rw [writeChar_regular h hquote hslash, Bool.false_and, if_neg Bool.false_ne_true]

/-- Where they are, a character beyond the first 65536 is spelled as its surrogate pair. -/
theorem writeChar_supplementary {c : Char} (h : 0x10000 ≤ c.toNat) :
    ∃ high low, Encoding.Wide.isHighSurrogate high = true ∧
      Encoding.Wide.isLowSurrogate low = true ∧ Encoding.Wide.pair high low = c.toNat ∧
      writeChar true c = unicodeEscape high ++ unicodeEscape low := by
  have hne {x : Char} (hx : x.toNat < 0x10000) : c ≠ x := by
    rintro rfl
    exact absurd h (not_le.2 hx)
  obtain ⟨high, low, hhigh, hlow, hpair, hescape⟩ := escape_supplementary h
  refine ⟨high, low, hhigh, hlow, hpair, ?_⟩
  have hbeyond : 0x7F ≤ c.toNat := le_trans (by decide) h
  rw [writeChar_regular (le_trans (by decide) h) (hne (by decide)) (hne (by decide)),
    Bool.true_and, if_pos (decide_eq_true hbeyond), hescape]

/-! Carriage returns. -/

theorem withLineFeeds_returnFree {t : List Char} (h : '\r' ∉ t) : Text.withLineFeeds t = t := by
  induction t with
  | nil => rfl
  | cons c t ih =>
    rw [List.mem_cons, not_or] at h
    rw [Text.withLineFeeds, if_neg (Ne.symm h.1), ih h.2]
    rintro rest rfl -
    exact h.1 rfl

/-- A reader that takes all line endings for line feeds takes a written text as it is. -/
theorem withLineFeeds_write (l : Layout) (j : Json) :
    Text.withLineFeeds (write l j) = write l j := by
  refine withLineFeeds_returnFree fun hmem => ?_
  rcases legible_write l j _ hmem with hreturn | ⟨-, hreturn⟩ <;> exact absurd hreturn (by decide)

/-! Lines. -/

/-- The end of a line, and what the next one begins with at a nesting level. -/
def newLine (level : ℕ) : List Char :=
  '\n' :: List.replicate (2 * level) ' '

/-- Parts between braces, each on a line of its own and with a comma behind it if another one
follows. -/
def braced (level : ℕ) (parts : List (List Char)) : List Char :=
  if parts.isEmpty then ['{', '}']
  else '{' :: [','].intercalate (parts.map (newLine (level + 1) ++ ·)) ++ newLine level ++ ['}']

/-- A name and the text of its value. -/
def entry (ascii : Bool) (name : String) (text : List Char) : List Char :=
  writeString ascii name ++ [':', ' '] ++ text

section Indented

variable {l : Layout}

theorem break_indented (hl : l.indent = some 2) (level : ℕ) : l.break level = newLine level := by
  rw [Layout.break, hl]
  rfl

theorem comma_indented (hl : l.indent = some 2) (level : ℕ) :
    l.comma level = ',' :: newLine level := by
  rw [Layout.comma, hl, break_indented hl]

theorem writeMember_eq (level : ℕ) (member : String × Json) :
    writeMember l level member = entry l.ascii member.1 (writeValue l level member.2) := by
  obtain ⟨name, value⟩ := member
  rw [writeMember, entry]

/-- Members that are written one behind the other stand on lines of their own. -/
theorem writeMembers_indented (hl : l.indent = some 2) (level : ℕ) (rest : List Char)
    (members : Dictionary Json) :
    ∀ member, newLine level ++ (writeMember l level member ++
        (writeMembers l level members ++ rest)) =
      [','].intercalate ((member :: members).map fun m => newLine level ++ writeMember l level m) ++
        rest := by
  induction members with
  | nil =>
    intro member
    rw [writeMembers, List.nil_append, List.map_singleton, List.intercalate_singleton,
      List.append_assoc]
  | cons next members ih =>
    -- of what stands in front of the next member, the comma separates and the rest is its own
    intro member
    have hnext := ih next
    rw [List.map_cons] at hnext
    rw [List.map_cons, List.map_cons, List.intercalate_cons_cons, List.append_assoc, ← hnext,
      writeMembers, comma_indented hl]
    simp only [List.append_assoc, List.cons_append, List.nil_append]

/-- An object is written with one member to a line. -/
theorem writeValue_indented (hl : l.indent = some 2) (level : ℕ) (members : Dictionary Json) :
    writeValue l level (.obj members) = braced level (members.map fun member =>
      entry l.ascii member.1 (writeValue l (level + 1) member.2)) := by
  cases members with
  | nil => rw [writeValue, List.map_nil, braced, List.isEmpty_nil, if_pos rfl]
  | cons member members =>
    rw [braced, List.map_map, List.isEmpty_map, List.isEmpty_cons, if_neg Bool.false_ne_true]
    simp only [writeValue, break_indented hl, List.append_assoc, List.cons_append,
      writeMembers_indented hl]
    simp only [writeMember_eq, Function.comp_def]

end Indented

end FormulaOcr.Json
