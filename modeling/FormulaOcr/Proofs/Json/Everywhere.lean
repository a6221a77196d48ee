import FormulaOcr.Json.Reader
import FormulaOcr.Proofs.Dictionary

/-! Properties that hold everywhere in a value: of each of its numbers with a fraction, and of the
names in each of its objects. Whatever is read names no member of an object twice, and its numbers
have whatever property the numbers have that can be read. -/

namespace FormulaOcr.Json

section Everywhere

variable (number : Binary64 → Prop) (names : List String → Prop)

mutual

/-- Each number with a fraction has the one property and the names of each object the other. -/
def Everywhere : Json → Prop
  | .float x => number x
  | .arr items => EverywhereItems items
  | .obj members => names (Dictionary.keys members) ∧ EverywhereMembers members
  | _ => True

def EverywhereItems : List Json → Prop
  | [] => True
  | item :: items => Everywhere item ∧ EverywhereItems items

def EverywhereMembers : List (String × Json) → Prop
  | [] => True
  | (_, value) :: members => Everywhere value ∧ EverywhereMembers members

end

end Everywhere

variable {number number' number'' : Binary64 → Prop} {names names' names'' : List String → Prop}

mutual

theorem Everywhere.combine (hnumber : ∀ x, number x → number' x → number'' x)
    (hnames : ∀ ks, names ks → names' ks → names'' ks) : ∀ {j : Json},
    j.Everywhere number names → j.Everywhere number' names' → j.Everywhere number'' names''
  | .float _, h, h' => by
    rw [Everywhere] at h h' ⊢
    exact hnumber _ h h'
  | .arr _, h, h' => by
    rw [Everywhere] at h h' ⊢
    exact EverywhereItems.combine hnumber hnames h h'
  | .obj _, h, h' => by
    rw [Everywhere] at h h' ⊢
    exact ⟨hnames _ h.1 h'.1, EverywhereMembers.combine hnumber hnames h.2 h'.2⟩
  | .null, _, _ | .bool _, _, _ | .int _, _, _ | .str _, _, _ => by simp [Everywhere]

theorem EverywhereItems.combine (hnumber : ∀ x, number x → number' x → number'' x)
    (hnames : ∀ ks, names ks → names' ks → names'' ks) : ∀ {items : List Json},
    EverywhereItems number names items → EverywhereItems number' names' items →
    EverywhereItems number'' names'' items
  | [], _, _ => by simp [EverywhereItems]
  | _ :: _, h, h' => by
    rw [EverywhereItems] at h h' ⊢
    exact ⟨Everywhere.combine hnumber hnames h.1 h'.1,
      EverywhereItems.combine hnumber hnames h.2 h'.2⟩

theorem EverywhereMembers.combine (hnumber : ∀ x, number x → number' x → number'' x)
    (hnames : ∀ ks, names ks → names' ks → names'' ks) : ∀ {members : List (String × Json)},
    EverywhereMembers number names members → EverywhereMembers number' names' members →
    EverywhereMembers number'' names'' members
  | [], _, _ => by simp [EverywhereMembers]
  | (_, _) :: _, h, h' => by
    rw [EverywhereMembers] at h h' ⊢
    exact ⟨Everywhere.combine hnumber hnames h.1 h'.1,
      EverywhereMembers.combine hnumber hnames h.2 h'.2⟩

end

theorem everywhereItems_iff {items : List Json} :
    EverywhereItems number names items ↔ ∀ item ∈ items, item.Everywhere number names := by
  induction items with
  | nil => simp [EverywhereItems]
  | cons item items ih => rw [EverywhereItems, ih, List.forall_mem_cons]

theorem everywhereMembers_iff {members : List (String × Json)} :
    EverywhereMembers number names members ↔
      ∀ member ∈ members, member.2.Everywhere number names := by
  induction members with
  | nil => simp [EverywhereMembers]
  | cons member members ih =>
    obtain ⟨name, value⟩ := member
    rw [EverywhereMembers, ih, List.forall_mem_cons]

theorem everywhereMembers_assign {members : Dictionary Json} {value : Json}
    (h : EverywhereMembers number names members) (hv : value.Everywhere number names)
    (name : String) : EverywhereMembers number names (members.assign name value) := by
  fun_induction Dictionary.assign members name value with
  | case1 => exact ⟨hv, trivial⟩
  | case2 => exact ⟨hv, h.2⟩
  | case3 k v rest _ ih => exact ⟨h.1, ih h.2⟩

theorem Everywhere.assign {values : Dictionary Json} {value : Json}
    (h : (Json.obj values).Everywhere number List.Nodup) (name : String)
    (hv : value.Everywhere number List.Nodup) :
    (Json.obj (values.assign name value)).Everywhere number List.Nodup := by
  rw [Everywhere] at h ⊢
  exact ⟨Dictionary.nodup_keys_assign h.1 name value, everywhereMembers_assign h.2 hv name⟩

theorem Everywhere.merge {values later : Dictionary Json}
    (h : (Json.obj values).Everywhere number List.Nodup)
    (hlater : ∀ entry ∈ later, entry.2.Everywhere number List.Nodup) :
    (Json.obj (values.merge later)).Everywhere number List.Nodup := by
  induction later generalizing values with
  | nil => exact h
  | cons entry later ih =>
    exact ih (h.assign entry.1 (hlater entry (by simp)))
      fun e he => hlater e (List.mem_cons_of_mem _ he)

theorem Everywhere.member {j : Json} (h : j.Everywhere number names) (name : String) :
    (j.member name).Everywhere number names := by
  cases hfind : j.member? name with
  | none => simp [Json.member, hfind, Everywhere]
  | some value =>
    rw [Json.member, hfind, Option.getD_some]
    cases j with
    | obj members =>
      rw [Everywhere] at h
      exact everywhereMembers_iff.1 h.2 _ (Dictionary.mem_of_find? hfind)
    | _ => simp [Json.member?] at hfind

/-- No object names a member twice. -/
def Distinct (j : Json) : Prop :=
  j.Everywhere (fun _ => True) List.Nodup

/-- A property of every number that can be read. -/
structure Readable (number : Binary64 → Prop) : Prop where
  decimal : ∀ negative digits exponent, number (.ofDecimal negative digits exponent)
  infinity : ∀ negative, number (.infinity negative)
  nan : number .nan

theorem readScalar_everywhere (hnumber : Readable number) {t rest : List Char} {j : Json}
    (h : readScalar t = .ok (j, rest)) : j.Everywhere number List.Nodup := by
  unfold readScalar at h
  split at h
  · next found hfound =>
    obtain ⟨⟨word, value⟩, hmem, hword⟩ := List.exists_of_findSome?_eq_some hfound
    obtain ⟨r, -, hr⟩ := Option.map_eq_some_iff.1 hword
    obtain rfl : value = j := by
      rw [← hr] at h
      exact (Prod.mk.inj (Except.ok.inj h)).1
    simp only [words, List.mem_cons, Prod.mk.injEq, List.not_mem_nil, or_false] at hmem
    rcases hmem with ⟨-, rfl⟩ | ⟨-, rfl⟩ | ⟨-, rfl⟩ | ⟨-, rfl⟩ | ⟨-, rfl⟩ | ⟨-, rfl⟩ <;>
      simp [Everywhere, hnumber.infinity, hnumber.nan]
  · split at h
    · next found hfound =>
      obtain rfl := Except.ok.inj h
      have hunsigned {negative : Bool} {t : List Char}
          (h : takeUnsigned negative t = some (j, rest)) : j.Everywhere number List.Nodup := by
        unfold takeUnsigned at h
        split at h
        · simp at h
        · dsimp only at h
          split_ifs at h <;>
            · obtain ⟨rfl, -⟩ := Prod.mk.inj (Option.some.inj h)
              simp [Everywhere, Number.decimal, hnumber.decimal]
      unfold takeNumber at hfound
      split at hfound <;> exact hunsigned hfound
    · simp at h

/-! What a reader that came to a result tells of its steps. -/

theorem ok_of_bind {ε α β : Type} {x : Except ε α} {f : α → Except ε β} {y : β}
    (h : (x >>= f) = .ok y) : ∃ a, x = .ok a ∧ f a = .ok y := by
  cases x with
  | ok a => exact ⟨a, rfl, h⟩
  | error e => exact nomatch h

theorem ok_of_map {ε α β : Type} {x : Except ε α} {f : α → β} {y : β} (h : x.map f = .ok y) :
    ∃ a, x = .ok a ∧ f a = y := by
  cases x with
  | ok a => exact ⟨a, rfl, Except.ok.inj h⟩
  | error e => exact nomatch h

/-- What is read with so much fuel has readable numbers and names no member of an object twice. -/
structure ReadsEverywhere (number : Binary64 → Prop) (fuel : ℕ) : Prop where
  value : ∀ {t j rest}, readValue fuel t = .ok (j, rest) → j.Everywhere number List.Nodup
  members : ∀ {known t members rest}, readMembers fuel known t = .ok (members, rest) →
    known.keys.Nodup → EverywhereMembers number List.Nodup known →
      members.keys.Nodup ∧ EverywhereMembers number List.Nodup members
  items : ∀ {t items rest}, readItems fuel t = .ok (items, rest) →
    EverywhereItems number List.Nodup items

section Steps

variable {fuel : ℕ} {t rest : List Char}

theorem readValue_everywhere (hnumber : Readable number) (ih : ReadsEverywhere number fuel)
    {j : Json} (h : readValue (fuel + 1) t = .ok (j, rest)) : j.Everywhere number List.Nodup := by
  rw [readValue.eq_def] at h
  dsimp only at h
  split at h
  · obtain ⟨⟨cs, behind⟩, -, hread⟩ := ok_of_map h
    cases hread
    simp [Everywhere]
  · split at h
    · cases h
      simp [Everywhere, EverywhereMembers, Dictionary.keys]
    · obtain ⟨⟨members, behind⟩, hmembers, hread⟩ := ok_of_map h
      cases hread
      rw [Everywhere]
      exact ih.members hmembers (by simp) (by simp [EverywhereMembers])
  · split at h
    · cases h
      simp [Everywhere, EverywhereItems]
    · obtain ⟨⟨items, behind⟩, hitems, hread⟩ := ok_of_map h
      cases hread
      rw [Everywhere]
      exact ih.items hitems
  · exact readScalar_everywhere hnumber h

theorem readMembers_everywhere (ih : ReadsEverywhere number fuel)
    {known members : Dictionary Json} (h : readMembers (fuel + 1) known t = .ok (members, rest))
    (hnodup : known.keys.Nodup) (hknown : EverywhereMembers number List.Nodup known) :
    members.keys.Nodup ∧ EverywhereMembers number List.Nodup members := by
  rw [readMembers.eq_def] at h
  dsimp only at h
  split at h
  · obtain ⟨⟨name, behind⟩, -, h⟩ := ok_of_bind h
    dsimp only at h
    split at h
    · obtain ⟨⟨value, behind⟩, hvalue, h⟩ := ok_of_bind h
      dsimp only at h
      have hkeys := Dictionary.nodup_keys_assign hnodup (.ofList name) value
      have hall := everywhereMembers_assign hknown (ih.value hvalue) (.ofList name)
      split at h
      · cases h
        exact ⟨hkeys, hall⟩
      · exact ih.members h hkeys hall
      · exact nomatch h
    · exact nomatch h
  · exact nomatch h

theorem readItems_everywhere (ih : ReadsEverywhere number fuel) {items : List Json}
    (h : readItems (fuel + 1) t = .ok (items, rest)) :
    EverywhereItems number List.Nodup items := by
  rw [readItems.eq_def] at h
  dsimp only at h
  obtain ⟨⟨value, behind⟩, hvalue, h⟩ := ok_of_bind h
  dsimp only at h
  split at h
  · cases h
    exact ⟨ih.value hvalue, trivial⟩
  · obtain ⟨⟨later, behind⟩, hlater, h⟩ := ok_of_bind h
    cases h
    exact ⟨ih.value hvalue, ih.items hlater⟩
  · exact nomatch h

end Steps

theorem readsEverywhere (hnumber : Readable number) (fuel : ℕ) : ReadsEverywhere number fuel := by
  induction fuel with
  | zero =>
    refine ⟨fun h => ?_, fun h => ?_, fun h => ?_⟩
    · simp [readValue] at h
    · simp [readMembers] at h
    · simp [readItems] at h
  | succ fuel ih =>
    exact ⟨readValue_everywhere hnumber ih, readMembers_everywhere ih, readItems_everywhere ih⟩

theorem readWhole_everywhere (hnumber : Readable number) {t : List Char} {j : Json}
    (h : readWhole t = .ok j) : j.Everywhere number List.Nodup := by
  unfold readWhole at h
  obtain ⟨⟨value, behind⟩, hvalue, h⟩ := ok_of_bind h
  dsimp only at h
  split at h
  · cases h
    exact (readsEverywhere hnumber _).value hvalue
  · exact nomatch h

theorem readDecoded_everywhere (hnumber : Readable number) {t : List Char} {j : Json}
    (h : readDecoded t = .ok j) : j.Everywhere number List.Nodup := by
  unfold readDecoded at h
  cases hw : readWhole t with
  | error e => simp [hw, Except.mapError] at h
  | ok j' =>
    simp only [hw, Except.mapError, Except.ok.injEq] at h
    exact h ▸ readWhole_everywhere hnumber hw

theorem read_everywhere (hnumber : Readable number) {t : List Char} {j : Json}
    (h : read t = .ok j) : j.Everywhere number List.Nodup := by
  unfold read at h
  split at h
  · split_ifs at h
    exact readDecoded_everywhere hnumber h
  · exact readDecoded_everywhere hnumber h

/-- What is read from a text names no member of an object twice. -/
theorem read_distinct {t : List Char} {j : Json} (h : read t = .ok j) : j.Distinct :=
  read_everywhere ⟨fun _ _ _ => trivial, fun _ => trivial, trivial⟩ h

end FormulaOcr.Json
