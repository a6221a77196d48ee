import Mathlib.Data.List.DropRight
import Mathlib.Tactic
import FormulaOcr.Text.Search

/-! Finding words in a text, and what stands behind the last of a mark. A word without the mark does
not reach across one. -/

namespace FormulaOcr.Text

variable {mark : Char} {lead word t : List Char}

theorem occurs_iff {needle t : List Char} : occurs needle t = true ↔ needle <:+: t := by
  induction t with
  | nil => rw [occurs, List.isEmpty_iff, List.infix_nil]
  | cons c t ih =>
    rw [occurs, Bool.or_eq_true, List.isPrefixOf_iff_prefix, ih, List.infix_cons_iff]

theorem afterLast_eq (mark : Char) (t : List Char) :
    afterLast mark t = t.rtakeWhile (· != mark) := rfl

theorem notMem_afterLast (mark : Char) (t : List Char) : mark ∉ afterLast mark t := by
  intro h
  have hne := List.mem_rtakeWhile_imp (afterLast_eq mark t ▸ h)
  simp at hne

theorem afterLast_of_notMem (h : mark ∉ t) : afterLast mark t = t := by
  rw [afterLast_eq, List.rtakeWhile_eq_self_iff]
  intro c hc
  rw [bne_iff_ne]
  rintro rfl
  exact h hc

/-- A lead that is empty or ends with the mark. -/
def EndsLead (mark : Char) (lead : List Char) : Prop :=
  lead = [] ∨ lead.getLast? = some mark

/-- What stands before the last mark does not count. -/
theorem afterLast_append (h : EndsLead mark lead) (t : List Char) :
    afterLast mark (lead ++ t) = afterLast mark t := by
  rcases h with rfl | h
  · rfl
  · obtain ⟨front, rfl⟩ := List.getLast?_eq_some_iff.1 h
    rw [afterLast, afterLast, List.reverse_append, List.reverse_append, List.reverse_singleton,
      List.singleton_append]
    congr 1
    induction t.reverse with
    | nil => simp
    | cons c behind ih =>
      rw [List.cons_append, List.takeWhile_cons, List.takeWhile_cons, ih]

/-- Every text is a lead and what stands after the last mark. -/
theorem exists_lead (mark : Char) (t : List Char) :
    ∃ lead, t = lead ++ afterLast mark t ∧ EndsLead mark lead := by
  refine ⟨t.rdropWhile (· != mark), List.rdropWhile_append_rtakeWhile.symm, ?_⟩
  by_cases hnil : t.rdropWhile (· != mark) = []
  · exact .inl hnil
  · refine .inr ?_
    have hlast := List.rdropWhile_last_not (· != mark) t hnil
    rw [Bool.not_eq_true, bne_eq_false_iff_eq] at hlast
    rw [List.getLast?_eq_some_getLast hnil, hlast]

/-- A word without the mark stands before the last mark of a lead or behind it, and not across. -/
theorem infix_append_lead (h : EndsLead mark lead) (hmark : mark ∉ word) :
    word <:+: lead ++ t ↔ word <:+: lead ∨ word <:+: t := by
  rw [List.infix_append_iff]
  constructor
  · rintro (hlead | ht | ⟨front, behind, rfl, ⟨rest, hfront⟩, hbehind⟩)
    · exact .inl hlead
    · exact .inr ht
    · -- what stands across the mark ends the lead, and so it ends with the mark
      have hnone : front = [] := by
        cases front using List.reverseRec with
        | nil => rfl
        | append_singleton front c =>
          rcases h with rfl | h
          · simp at hfront
          · rw [← hfront, ← List.append_assoc, List.getLast?_concat] at h
            obtain rfl := Option.some.inj h
            simp at hmark
      rw [hnone, List.nil_append]
      exact .inr hbehind.isInfix
  · rintro (hlead | ht)
    · exact .inl hlead
    · exact .inr (.inl ht)

end FormulaOcr.Text
