import Mathlib.Tactic
import FormulaOcr.Dictionary

/-! Dictionaries whose keys are distinct. Assigning keeps keys distinct; a key that is not there is
put at the end. -/

namespace FormulaOcr.Dictionary

variable {α β : Type}

@[simp] theorem keys_nil : keys ([] : Dictionary α) = [] := rfl

@[simp] theorem keys_cons (key : String) (value : α) (d : Dictionary α) :
    keys ((key, value) :: d) = key :: keys d := rfl

theorem mem_keys_assign {d : Dictionary α} {key other : String} {value : α} :
    other ∈ (d.assign key value).keys ↔ other = key ∨ other ∈ d.keys := by
  rw [keys_assign]
  split_ifs with h
  · constructor
    · exact Or.inr
    · rintro (rfl | h')
      · exact h
      · exact h'
  · simp [or_comm]

theorem nodup_keys_assign {d : Dictionary α} (h : d.keys.Nodup) (key : String) (value : α) :
    (d.assign key value).keys.Nodup := by
  rw [keys_assign]
  split_ifs with hmem
  · exact h
  · refine List.nodup_append.2 ⟨h, List.nodup_singleton key, ?_⟩
    intro a ha b hb heq
    rw [List.mem_singleton] at hb
    exact hmem (hb ▸ heq ▸ ha)

theorem assign_of_notMem {d : Dictionary α} {key : String} (h : key ∉ d.keys) (value : α) :
    d.assign key value = d ++ [(key, value)] := by
  induction d with
  | nil => rfl
  | cons entry rest ih =>
    obtain ⟨k, v⟩ := entry
    rw [keys_cons, List.mem_cons, not_or] at h
    rw [assign, if_neg (Ne.symm h.1), ih h.2, List.cons_append]

/-- What is assigned where it stands already changes nothing. -/
theorem assign_of_find? {d : Dictionary α} {key : String} {value : α}
    (h : d.find? key = some value) : d.assign key value = d := by
  induction d with
  | nil => cases h
  | cons entry rest ih =>
    obtain ⟨k, v⟩ := entry
    rw [find?_cons] at h
    rw [assign]
    split_ifs at h ⊢ with hk
    · rw [hk, Option.some.inj h]
    · rw [ih h]

theorem find?_of_notMem {d : Dictionary α} {key : String} (h : key ∉ d.keys) :
    d.find? key = none := by
  induction d with
  | nil => rfl
  | cons entry rest ih =>
    obtain ⟨k, v⟩ := entry
    rw [keys_cons, List.mem_cons, not_or] at h
    rw [find?_cons, if_neg (Ne.symm h.1), ih h.2]

theorem mem_of_find? {d : Dictionary α} {key : String} {value : α} (h : d.find? key = some value) :
    (key, value) ∈ d := by
  induction d with
  | nil => simp at h
  | cons entry rest ih =>
    obtain ⟨k, v⟩ := entry
    rw [find?_cons] at h
    split_ifs at h with hk
    · subst hk
      rw [Option.some.inj h]
      exact List.mem_cons_self
    · exact List.mem_cons_of_mem _ (ih h)

theorem mem_keys_iff {d : Dictionary α} {key : String} : key ∈ d.keys ↔ (d.find? key).isSome := by
  constructor
  · intro h
    induction d with
    | nil => simp at h
    | cons entry rest ih =>
      obtain ⟨k, v⟩ := entry
      rw [find?_cons]
      split_ifs with hk
      · rfl
      · rw [keys_cons, List.mem_cons] at h
        exact ih (h.resolve_left (Ne.symm hk))
  · intro h
    by_contra hn
    rw [find?_of_notMem hn] at h
    simp at h

theorem mem_of_mem_assign {d : Dictionary α} {key : String} {value : α} {entry : String × α}
    (h : entry ∈ d.assign key value) : entry ∈ d ∨ entry = (key, value) := by
  induction d with
  | nil => exact .inr (List.mem_singleton.1 h)
  | cons first rest ih =>
    obtain ⟨k, v⟩ := first
    rw [assign] at h
    split_ifs at h
    · rcases List.mem_cons.1 h with rfl | h
      · exact .inr rfl
      · exact .inl (List.mem_cons_of_mem _ h)
    · rcases List.mem_cons.1 h with rfl | h
      · exact .inl List.mem_cons_self
      · exact (ih h).imp_left (List.mem_cons_of_mem _)

theorem mem_of_mem_merge {d later : Dictionary α} {entry : String × α}
    (h : entry ∈ d.merge later) : entry ∈ d ∨ entry ∈ later := by
  induction later generalizing d with
  | nil => exact .inl h
  | cons first later ih =>
    rcases ih (d := d.assign first.1 first.2) h with h | h
    · rcases mem_of_mem_assign h with h | rfl
      · exact .inl h
      · exact .inr List.mem_cons_self
    · exact .inr (List.mem_cons_of_mem _ h)

theorem keys_map (f : α → β) (d : Dictionary α) :
    keys (d.map fun entry => (entry.1, f entry.2)) = keys d := by
  simp [keys, Function.comp_def]

theorem merge_append (d later last : Dictionary α) :
    d.merge (later ++ last) = (d.merge later).merge last :=
  List.foldl_append ..

/-- The entries that have a value. -/
def present (d : Dictionary (Option α)) : Dictionary α :=
  d.filterMap fun entry => entry.2.map (entry.1, ·)

theorem present_append (d d' : Dictionary (Option α)) :
    present (d ++ d') = d.present ++ d'.present :=
  List.filterMap_append

theorem present_cons (key : String) (value : Option α) (d : Dictionary (Option α)) :
    present ((key, value) :: d) = (value.map (key, ·)).toList ++ d.present := by
  cases value <;> rfl

theorem keys_present (d : Dictionary (Option α)) : d.present.keys.Sublist d.keys := by
  induction d with
  | nil => exact List.Sublist.slnil
  | cons entry d ih =>
    obtain ⟨key, value⟩ := entry
    cases value with
    | none => exact ih.cons key
    | some x => exact ih.cons_cons key

theorem find?_present {d : Dictionary (Option α)} (h : d.keys.Nodup) (key : String) :
    d.present.find? key = (d.find? key).join := by
  induction d with
  | nil => rfl
  | cons entry d ih =>
    obtain ⟨k, value⟩ := entry
    obtain ⟨hk, hd⟩ := List.nodup_cons.1 h
    rw [present_cons, find?_cons]
    cases value with
    | none =>
      split_ifs with heq
      · subst heq
        exact find?_of_notMem fun hmem => hk ((keys_present d).mem hmem)
      · exact ih hd
    | some x =>
      rw [Option.map_some, Option.toList_some, List.singleton_append, find?_cons, ih hd]
      split_ifs <;> rfl

/-! Two dictionaries side by side. -/

/-- The same keys in the same order, with values that are related under each key. -/
def Like (V : String → α → β → Prop) (d : Dictionary α) (d' : Dictionary β) : Prop :=
  List.Forall₂ (fun entry entry' => entry.1 = entry'.1 ∧ V entry.1 entry.2 entry'.2) d d'

namespace Like

variable {V : String → α → β → Prop} {d : Dictionary α} {d' : Dictionary β}

theorem refl {V : String → α → α → Prop} (hV : ∀ key value, V key value value)
    (d : Dictionary α) : d.Like V d :=
  List.forall₂_same.2 fun entry _ => ⟨rfl, hV entry.1 entry.2⟩

theorem found (h : d.Like V d') (key : String) :
    Option.Rel (V key) (d.find? key) (d'.find? key) := by
  induction h with
  | nil => exact .none
  | @cons entry entry' d d' hentry _ ih =>
    obtain ⟨k, value⟩ := entry
    obtain ⟨k', value'⟩ := entry'
    obtain ⟨rfl, hvalue⟩ : k = k' ∧ V k value value' := hentry
    rw [find?_cons, find?_cons]
    split_ifs with hk
    · exact hk ▸ .some hvalue
    · exact ih

theorem find?_eq {V : String → α → α → Prop} {d d' : Dictionary α} (h : d.Like V d')
    {key : String} (hV : ∀ value value', V key value value' → value = value') :
    d.find? key = d'.find? key := by
  have hfound := h.found key
  generalize d.find? key = value at hfound ⊢
  generalize d'.find? key = value' at hfound ⊢
  cases hfound with
  | none => rfl
  | some hvalue => rw [hV _ _ hvalue]

theorem has_eq (h : d.Like V d') (key : String) : d.has key = d'.has key := by
  have hfound := h.found key
  rw [has_eq_isSome_find?, has_eq_isSome_find?]
  generalize d.find? key = value at hfound ⊢
  generalize d'.find? key = value' at hfound ⊢
  cases hfound <;> rfl

theorem assign (h : d.Like V d') {key : String} {value : α} {value' : β}
    (hvalue : V key value value') :
    Like V (Dictionary.assign d key value) (Dictionary.assign d' key value') := by
  induction h with
  | nil => exact .cons ⟨rfl, hvalue⟩ .nil
  | @cons entry entry' d d' hentry hrest ih =>
    obtain ⟨k, old⟩ := entry
    obtain ⟨k', old'⟩ := entry'
    obtain ⟨rfl, hold⟩ : k = k' ∧ V k old old' := hentry
    rw [Dictionary.assign, Dictionary.assign]
    split_ifs
    · exact .cons ⟨rfl, hvalue⟩ hrest
    · exact .cons ⟨rfl, hold⟩ ih

theorem merge {later : Dictionary α} {later' : Dictionary β} (h : d.Like V d')
    (hlater : later.Like V later') :
    Like V (Dictionary.merge d later) (Dictionary.merge d' later') := by
  induction hlater generalizing d d' with
  | nil => exact h
  | @cons entry entry' later later' hentry _ ih =>
    obtain ⟨k, value⟩ := entry
    obtain ⟨k', value'⟩ := entry'
    obtain ⟨rfl, hvalue⟩ : k = k' ∧ V k value value' := hentry
    exact ih (h.assign hvalue)

theorem append {later : Dictionary α} {later' : Dictionary β} (h : d.Like V d')
    (hlater : later.Like V later') : Like V (d ++ later) (d' ++ later') :=
  List.rel_append h hlater

end Like

end FormulaOcr.Dictionary
