import Mathlib.Data.List.DropRight
import Mathlib.Tactic
import FormulaOcr.Text.Blank

/-! Trimming a text. What is left neither begins nor ends with a blank, and it is all of the text
but for blanks around it. -/

namespace FormulaOcr.Text

variable {t before after : List Char} {s : String}

theorem getLast?_trim (t : List Char) : ∀ c ∈ (trim t).getLast?, isBlank c = false := by
  intro c hc
  have hne : trim t ≠ [] := by
    intro hnil
    simp [hnil] at hc
  rw [List.getLast?_eq_some_getLast hne, Option.mem_some_iff] at hc
  have hlast : ¬ isBlank ((trim t).getLast hne) = true :=
    List.rdropWhile_last_not isBlank (trimStart t) hne
  rwa [hc, Bool.not_eq_true] at hlast

theorem head?_trim (t : List Char) : ∀ c ∈ (trim t).head?, isBlank c = false := by
  intro c hc
  obtain ⟨rest, hrest⟩ : trim t <+: trimStart t := List.rdropWhile_prefix isBlank _
  have hstart : (trimStart t).head? = some c := by
    rw [← hrest, List.head?_append, hc]
    rfl
  have hnot := List.head?_dropWhile_not isBlank t
  rw [← trimStart, hstart] at hnot
  simpa using hnot

/-- A text that neither begins nor ends with a blank. -/
def Trimmed (s : String) : Prop :=
  (∀ c ∈ s.toList.head?, isBlank c = false) ∧ ∀ c ∈ s.toList.getLast?, isBlank c = false

theorem trimmed_trimmed (s : String) : Trimmed (trimmed s) := by
  rw [Trimmed, trimmed, String.toList_ofList]
  exact ⟨head?_trim s.toList, getLast?_trim s.toList⟩

theorem trimmed_empty : Trimmed "" :=
  ⟨by simp, by simp⟩

theorem trim_eq_nil_iff : trim t = [] ↔ ∀ c ∈ t, isBlank c = true := by
  have hstart : (∀ c ∈ trimStart t, isBlank c = true) ↔ ∀ c ∈ t, isBlank c = true := by
    constructor
    · intro h c hc
      rw [← List.takeWhile_append_dropWhile (l := t), List.mem_append] at hc
      rcases hc with hc | hc
      · exact List.mem_takeWhile_imp hc
      · exact h c hc
    · intro h c hc
      exact h c ((List.dropWhile_sublist _).subset hc)
  rw [← hstart]
  exact List.rdropWhile_eq_nil_iff

/-- Every text is what trimming leaves of it, between blanks. -/
theorem exists_trim (t : List Char) :
    ∃ before after, t = before ++ trim t ++ after ∧ (∀ c ∈ before, isBlank c = true) ∧
      ∀ c ∈ after, isBlank c = true := by
  refine ⟨t.takeWhile isBlank, (trimStart t).rtakeWhile isBlank, ?_,
    fun c => List.mem_takeWhile_imp, fun c => List.mem_rtakeWhile_imp⟩
  have hend : trim t ++ (trimStart t).rtakeWhile isBlank = trimStart t :=
    List.rdropWhile_append_rtakeWhile
  rw [List.append_assoc, hend]
  exact List.takeWhile_append_dropWhile.symm

/-- Blanks around a text are trimmed with those that it begins and ends with. -/
theorem trim_append (hbefore : ∀ c ∈ before, isBlank c = true)
    (hafter : ∀ c ∈ after, isBlank c = true) : trim (before ++ t ++ after) = trim t := by
  by_cases hblank : ∀ c ∈ t, isBlank c = true
  · rw [trim_eq_nil_iff.2 hblank, trim_eq_nil_iff]
    intro c hc
    simp only [List.mem_append] at hc
    rcases hc with (hc | hc) | hc
    · exact hbefore c hc
    · exact hblank c hc
    · exact hafter c hc
  · have hne : (t.dropWhile isBlank).isEmpty = false := by
      rw [List.isEmpty_eq_false_iff, ne_eq, List.dropWhile_eq_nil_iff]
      exact hblank
    have hstart : trimStart (before ++ t ++ after) = trimStart t ++ after := by
      rw [trimStart, List.append_assoc, List.dropWhile_append_of_pos hbefore,
        List.dropWhile_append, hne]
      rfl
    rw [trim, hstart, trimEnd, List.reverse_append, List.dropWhile_append_of_pos]
    · rfl
    · exact fun c hc => hafter c (List.mem_reverse.1 hc)

/-- What neither begins nor ends with a blank is not trimmed. -/
theorem trim_eq_self (hfirst : ∀ c ∈ t.head?, isBlank c = false)
    (hlast : ∀ c ∈ t.getLast?, isBlank c = false) : trim t = t := by
  obtain ⟨before, after, hparts, hbefore, hafter⟩ := exists_trim t
  have hnone : before = [] := by
    cases before with
    | nil => rfl
    | cons c before =>
      have hblank := hbefore c List.mem_cons_self
      rw [hfirst c (by rw [hparts]; rfl)] at hblank
      cases hblank
  have hnone' : after = [] := by
    cases after using List.reverseRec with
    | nil => rfl
    | append_singleton after c =>
      have hblank := hafter c (by simp)
      rw [hlast c (by rw [hparts]; simp)] at hblank
      cases hblank
  rw [hnone, hnone', List.nil_append, List.append_nil] at hparts
  exact hparts.symm

theorem Trimmed.trimmed_eq (h : Trimmed s) : trimmed s = s := by
  rw [trimmed, trim_eq_self h.1 h.2, String.ofList_toList]

/-- Blanks around a text without blanks are trimmed. -/
theorem trim_between (hbefore : ∀ c ∈ before, isBlank c = true)
    (hafter : ∀ c ∈ after, isBlank c = true) (ht : ∀ c ∈ t, isBlank c = false) :
    trim (before ++ t ++ after) = t := by
  rw [trim_append hbefore hafter]
  exact trim_eq_self (fun c hc => ht c (List.mem_of_mem_head? hc))
    fun c hc => ht c (List.mem_of_mem_getLast? hc)

end FormulaOcr.Text
