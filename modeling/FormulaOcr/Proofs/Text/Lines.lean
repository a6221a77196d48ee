import Mathlib.Tactic
import FormulaOcr.Text.Line

/-! The lines of a text. A text has one cut into lines, which may end in any of the line breaks, and
it is the one that is made. Lines that are joined by line feeds are cut apart again. -/

namespace FormulaOcr.Text

/-- Characters that stand on one line. -/
def Unbroken (line : List Char) : Prop :=
  ∀ c ∈ line, isLineBreak c = false

/-- What ends a line if the rest of the text follows: a line break, or a carriage return and a line
feed together. The first of the two alone ends no line that the second one follows. -/
def EndsLine (ending rest : List Char) : Prop :=
  ending = ['\r', '\n'] ∨
    ∃ c, ending = [c] ∧ isLineBreak c = true ∧ ¬ (c = '\r' ∧ rest.head? = some '\n')

/-- A text is cut into lines: each has its ending, except that the last one may have none if there
is anything on it. -/
inductive Cut : List Char → List (List Char) → Prop
  | nil : Cut [] []
  | last {line : List Char} (hne : line ≠ []) (h : Unbroken line) : Cut line [line]
  | line {line ending rest : List Char} {ls : List (List Char)} (h : Unbroken line)
      (hending : EndsLine ending rest) (hrest : Cut rest ls) :
      Cut (line ++ ending ++ rest) (line :: ls)

variable {t line ending rest held : List Char} {ls : List (List Char)}

theorem Cut.unbroken (h : Cut t ls) : ∀ line ∈ ls, Unbroken line := by
  induction h with
  | nil => simp
  | last _ h => simpa using h
  | line h _ _ ih => exact List.forall_mem_cons.2 ⟨h, ih⟩

/-! The cut that is made. -/

theorem cut_linesFrom (h : Unbroken held) : Cut (held.reverse ++ t) (linesFrom held t) := by
  have hheld {held : List Char} (h : Unbroken held) : Unbroken held.reverse :=
    fun c hc => h c (List.mem_reverse.1 hc)
  fun_induction linesFrom held t with
  | case1 held hempty =>
    obtain rfl := List.isEmpty_iff.1 hempty
    exact .nil
  | case2 held hne =>
    rw [List.append_nil]
    exact .last (by simpa using hne) (hheld h)
  | case3 held rest ih =>
    have hsplit : held.reverse ++ '\r' :: '\n' :: rest = held.reverse ++ ['\r', '\n'] ++ rest := by
      simp
    rw [hsplit]
    exact .line (hheld h) (.inl rfl) (ih (by simp [Unbroken]))
  | case4 held c rest hpair hbreak ih =>
    have hsplit : held.reverse ++ c :: rest = held.reverse ++ [c] ++ rest := by simp
    rw [hsplit]
    refine .line (hheld h) (.inr ⟨c, rfl, hbreak, ?_⟩) (ih (by simp [Unbroken]))
    rintro ⟨rfl, hfeed⟩
    obtain ⟨after, rfl⟩ := List.head?_eq_some_iff.1 hfeed
    exact hpair after rfl rfl
  | case5 held c rest _ hbreak ih =>
    have hmore : Unbroken (c :: held) := List.forall_mem_cons.2 ⟨by simpa using hbreak, h⟩
    simpa using ih hmore

theorem linesFrom_unbroken (h : Unbroken line) :
    linesFrom held (line ++ t) = linesFrom (line.reverse ++ held) t := by
  induction line generalizing held with
  | nil => rfl
  | cons c line ih =>
    obtain ⟨hc, hline⟩ := List.forall_mem_cons.1 h
    have hstep : linesFrom held (c :: (line ++ t)) = linesFrom (c :: held) (line ++ t) := by
      rw [linesFrom.eq_3, hc]
      · rfl
      · rintro _ rfl -
        exact absurd hc (by decide)
    rw [List.cons_append, hstep, ih hline, List.reverse_cons, List.append_assoc]
    rfl

theorem linesFrom_ending (h : EndsLine ending rest) :
    linesFrom held (ending ++ rest) = held.reverse :: linesFrom [] rest := by
  rcases h with rfl | ⟨c, rfl, hbreak, hpair⟩
  · rfl
  · rw [List.singleton_append, linesFrom.eq_3, if_pos hbreak]
    rintro after rfl rfl
    exact hpair ⟨rfl, rfl⟩

theorem Cut.eq_lines (h : Cut t ls) : ls = lines t := by
  rw [lines]
  induction h with
  | nil => rfl
  | @last line hne h =>
    have hempty : line.reverse.isEmpty = false := by simpa using hne
    rw [← List.append_nil line, linesFrom_unbroken h, List.append_nil, List.append_nil,
      linesFrom, hempty, List.reverse_reverse]
    rfl
  | line h hending _ ih =>
    rw [List.append_assoc, linesFrom_unbroken h, linesFrom_ending hending, List.append_nil,
      List.reverse_reverse, ih]

/-- Every text is cut in one way, and its lines are those of the cut. -/
theorem cut_iff : Cut t ls ↔ ls = lines t := by
  constructor
  · exact Cut.eq_lines
  · rintro rfl
    have hnone : Unbroken [] := by simp [Unbroken]
    exact cut_linesFrom hnone

theorem unbroken_of_mem_lines (h : line ∈ lines t) : Unbroken line :=
  (cut_iff.2 rfl).unbroken line h

/-! Lines that are joined. -/

theorem cut_intercalate (h : ∀ line ∈ ls, line ≠ [] ∧ Unbroken line) :
    Cut (['\n'].intercalate ls) ls := by
  induction ls with
  | nil => exact .nil
  | cons line ls ih =>
    obtain ⟨⟨hne, hline⟩, hrest⟩ := List.forall_mem_cons.1 h
    cases ls with
    | nil =>
      rw [List.intercalate_singleton]
      exact .last hne hline
    | cons next ls =>
      rw [List.intercalate_cons_cons]
      exact .line hline (.inr ⟨'\n', rfl, rfl, by simp⟩) (ih hrest)

/-- Lines that hold anything are cut apart where they were joined. -/
theorem lines_intercalate (h : ∀ line ∈ ls, line ≠ [] ∧ Unbroken line) :
    lines (['\n'].intercalate ls) = ls :=
  (cut_intercalate h).eq_lines.symm

end FormulaOcr.Text
