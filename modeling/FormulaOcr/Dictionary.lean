/-! Dictionaries with text keys that remember the order in which the keys came. Assigning changes
what is found under one key alone, and moves no key. -/

namespace FormulaOcr

abbrev Dictionary (α : Type) := List (String × α)

namespace Dictionary

variable {α : Type}

def find? (d : Dictionary α) (key : String) : Option α :=
  d.lookup key

def has (d : Dictionary α) (key : String) : Bool :=
  d.any (·.1 == key)

def keys (d : Dictionary α) : List String :=
  d.map (·.1)

/-- A known key keeps its place; a new one comes last. -/
def assign (d : Dictionary α) (key : String) (value : α) : Dictionary α :=
  match d with
  | [] => [(key, value)]
  | (k, v) :: rest => if k = key then (key, value) :: rest else (k, v) :: assign rest key value

/-- The later dictionary wins. -/
def merge (earlier later : Dictionary α) : Dictionary α :=
  later.foldl (fun d (k, v) => d.assign k v) earlier

def ofPairs (pairs : List (String × α)) : Dictionary α :=
  merge [] pairs

@[simp] theorem find?_nil (key : String) : find? ([] : Dictionary α) key = none := rfl

theorem find?_cons (k : String) (v : α) (d : Dictionary α) (key : String) :
    find? ((k, v) :: d) key = if k = key then some v else find? d key := by
  by_cases h : k = key
  · simp [find?, h]
  · simp [find?, List.lookup_cons, h, beq_eq_false_iff_ne.2 (Ne.symm h)]

@[simp] theorem find?_assign_self (d : Dictionary α) (key : String) (value : α) :
    (d.assign key value).find? key = some value := by
  fun_induction assign d key value with
  | case1 => simp [find?_cons]
  | case2 => simp [find?_cons]
  | case3 k v rest hk ih => rw [find?_cons, if_neg hk, ih]

theorem find?_assign_of_ne (d : Dictionary α) {key other : String} (value : α) (h : key ≠ other) :
    (d.assign key value).find? other = d.find? other := by
  fun_induction assign d key value with
  | case1 => simp [find?_cons, h]
  | case2 => simp [find?_cons, h]
  | case3 k v rest _ ih => rw [find?_cons, find?_cons, ih]

theorem has_eq_isSome_find? (d : Dictionary α) (key : String) :
    d.has key = (d.find? key).isSome := by
  induction d with
  | nil => rfl
  | cons entry rest ih =>
    rw [find?_cons]
    by_cases hk : entry.1 = key
    · simp [has, hk]
    · simpa [has, hk, beq_eq_false_iff_ne.2 hk] using ih

theorem keys_assign (d : Dictionary α) (key : String) (value : α) :
    (d.assign key value).keys = if key ∈ d.keys then d.keys else d.keys ++ [key] := by
  fun_induction assign d key value with
  | case1 => simp [keys]
  | case2 => simp [keys]
  | case3 k v rest hk ih =>
    by_cases h : key ∈ keys rest <;> simp_all [keys, Ne.symm hk]

end Dictionary

end FormulaOcr
