import Mathlib.Data.Prod.Lex
import Mathlib.Tactic
import FormulaOcr.Proofs.Dictionary
import FormulaOcr.SiliconFlow.Catalog

/-! The catalog as a ranking. Its order is that of a key in a linear order, the free models first
and then the price of input, and models of one key keep the order of the list. So the catalog loses
and repeats nothing, and no other list is a ranking of the same models. -/

namespace FormulaOcr

/-- The place of a number in the order; what is no number has a place without meaning. -/
def Binary64.level : Binary64 → ℤ ×ₗ ℤ
  | .nan => toLex (0, 0)
  | .infinity negative => toLex (if negative then -1 else 1, 0)
  | .finite negative units => toLex (0, signed negative units)

section

variable {x y : Binary64}

/-- The order and the equality of numbers are those of their places. -/
theorem Binary64.compare_level (hx : x ≠ .nan) (hy : y ≠ .nan) :
    (x.lt y = true ↔ x.level < y.level) ∧ (x.eq y = true ↔ x.level = y.level) := by
  cases x with
  | nan => exact absurd rfl hx
  | infinity s =>
    cases y with
    | nan => exact absurd rfl hy
    | infinity r => cases s <;> cases r <;> simp [lt, eq, level, Prod.Lex.toLex_lt_toLex]
    | finite r v => cases s <;> simp [lt, eq, level, Prod.Lex.toLex_lt_toLex]
  | finite s u =>
    cases y with
    | nan => exact absurd rfl hy
    | infinity r => cases r <;> simp [lt, eq, level, Prod.Lex.toLex_lt_toLex]
    | finite r v => simp [lt, eq, level, Prod.Lex.toLex_lt_toLex]

theorem Binary64.lt_iff_level (hx : x ≠ .nan) (hy : y ≠ .nan) :
    x.lt y = true ↔ x.level < y.level :=
  (compare_level hx hy).1

theorem Binary64.eq_iff_level (hx : x ≠ .nan) (hy : y ≠ .nan) :
    x.eq y = true ↔ x.level = y.level :=
  (compare_level hx hy).2

theorem Binary64.le_iff_level (hx : x ≠ .nan) (hy : y ≠ .nan) :
    x.le y = true ↔ x.level ≤ y.level := by
  rw [le, Bool.or_eq_true, lt_iff_level hx hy, eq_iff_level hx hy, le_iff_lt_or_eq]

end

namespace SiliconFlow

/-! Lists in the order of a key. -/

section

variable {α κ : Type} [LinearOrder κ] {key : α → κ} {l l' : List α}

/-- A list in the order of a key is told by its members and their order within each key. -/
theorem eq_of_sorted (hl : l.Pairwise fun a b => key a ≤ key b)
    (hl' : l'.Pairwise fun a b => key a ≤ key b) (hperm : l.Perm l')
    (hsame : ∀ a ∈ l, l.filter (key · = key a) = l'.filter (key · = key a)) : l = l' := by
  induction l generalizing l' with
  | nil => exact hperm.nil_eq
  | cons a l ih =>
    cases l' with
    | nil => exact hperm.eq_nil
    | cons a' l' =>
      -- both heads have the least key, and its class tells which member comes first
      obtain ⟨hleast, hrest⟩ := List.pairwise_cons.1 hl
      obtain ⟨hleast', hrest'⟩ := List.pairwise_cons.1 hl'
      have hle : key a ≤ key a' := by
        obtain rfl | ha' := List.mem_cons.1 (hperm.mem_iff.2 List.mem_cons_self)
        · exact le_rfl
        · exact hleast a' ha'
      have hle' : key a' ≤ key a := by
        obtain rfl | ha := List.mem_cons.1 (hperm.mem_iff.1 List.mem_cons_self)
        · exact le_rfl
        · exact hleast' a ha
      have hkey : key a' = key a := le_antisymm hle' hle
      obtain ⟨rfl, -⟩ : a = a' ∧ l.filter (key · = key a) = l'.filter (key · = key a) := by
        simpa [hkey] using hsame a List.mem_cons_self
      refine congrArg (a :: ·) (ih hrest hrest' hperm.cons_inv fun b hb => ?_)
      have htail := hsame b (List.mem_cons_of_mem a hb)
      by_cases hab : key a = key b
      · simpa [hab] using htail
      · simpa [hab] using htail

/-- A comparison that is that of a key sorts by the key, and leaves the order within each. -/
theorem mergeSort_by_key {le : α → α → Bool}
    (hle : ∀ a ∈ l, ∀ b ∈ l, le a b = decide (key a ≤ key b)) :
    (l.mergeSort le).Pairwise (fun a b => key a ≤ key b) ∧
      ∀ k, (l.mergeSort le).filter (key · = k) = l.filter (key · = k) := by
  have htrans : ∀ a b c : α, decide (key a ≤ key b) = true → decide (key b ≤ key c) = true →
      decide (key a ≤ key c) = true := by
    simpa using fun a b c => le_trans
  have htotal : ∀ a b : α, (decide (key a ≤ key b) || decide (key b ≤ key a)) = true := by
    simpa using fun a b => le_total (key a) (key b)
  have hsort : l.mergeSort le = l.mergeSort fun a b => decide (key a ≤ key b) := by
    simpa using List.map_mergeSort (f := id) hle
  rw [hsort]
  refine ⟨by simpa using List.pairwise_mergeSort htrans htotal l, fun k => ?_⟩
  have hclass : (l.filter (key · = k)).Pairwise fun a b => decide (key a ≤ key b) = true := by
    refine List.pairwise_iff_forall_sublist.2 fun {a b} hab => ?_
    have ha : a ∈ l.filter (key · = k) := hab.subset (by simp)
    have hb : b ∈ l.filter (key · = k) := hab.subset (by simp)
    simp only [List.mem_filter, decide_eq_true_eq] at ha hb
    simp [ha.2, hb.2]
  have hsub := (List.sublist_mergeSort htrans htotal hclass List.filter_sublist).filter (key · = k)
  rw [List.filter_filter] at hsub
  simp only [Bool.and_self] at hsub
  exact (hsub.eq_of_length ((List.mergeSort_perm l _).filter _).length_eq.symm).symm

end

/-! The ranking. -/

/-- All prices of the map are numbers. -/
def Numeric (prices : Dictionary Pricing) : Prop :=
  ∀ id p, prices.find? id = some p → p.input ≠ .nan ∧ p.output ≠ .nan

/-- Two models have the same rank. -/
def tied (a b : Model) : Bool :=
  a.isFree == b.isFree && a.sortPrice.eq b.sortPrice

/-- The models are those of the list that see pictures, each as often as it is listed, and in the
order of their ranks. -/
structure Ranking (ids : List String) (prices : Dictionary Pricing) (models : List Model) :
    Prop where
  complete : (models.map (·.id)).Perm (ids.filter fun id => (classify id).isVision)
  described : ∀ m ∈ models, m.name = displayName m.id ∧ m.modes = (classify m.id).modes
  priced : ∀ m ∈ models, ∀ p, m.pricing = some p ↔
    prices.find? m.id = some p ∧ p.input.lt .zero = false ∧ p.output.lt .zero = false
  freeFirst : models.Pairwise fun a b => b.isFree = true → a.isFree = true
  ascending : models.Pairwise fun a b =>
    a.isFree = false → b.isFree = false → a.sortPrice.le b.sortPrice = true
  inOrder : ∀ m ∈ models, ((models.filter (tied m)).map (·.id)).Sublist ids

/-- The place of a model in the ranking. -/
def Model.key (m : Model) : Bool ×ₗ (ℤ ×ₗ ℤ) :=
  toLex (!m.isFree, m.sortPrice.level)

section

variable {ids : List String} {prices : Dictionary Pricing} {models : List Model} {m m' : Model}

theorem isFree_iff : m.isFree = true ↔ ∃ p, m.pricing = some p ∧ p.isFree = true := by
  rw [Model.isFree, Option.any_eq_true]

theorem level_of_isFree (hm : m.sortPrice ≠ .nan) (h : m.isFree = true) :
    m.sortPrice.level = Binary64.zero.level := by
  obtain ⟨p, hp, hfree⟩ := isFree_iff.1 h
  rw [Pricing.isFree, Bool.and_eq_true] at hfree
  have hprice : m.sortPrice = p.input := by rw [Model.sortPrice, hp, Option.elim_some]
  rw [← Binary64.eq_iff_level hm (by decide), hprice]
  exact hfree.1

theorem Model.key_le_key :
    m.key ≤ m'.key ↔ (!m.isFree) < (!m'.isFree) ∨
      m.isFree = m'.isFree ∧ m.sortPrice.level ≤ m'.sortPrice.level := by
  rw [key, key, Prod.Lex.toLex_le_toLex]
  simp

theorem rankedBefore_eq (hm : m.sortPrice ≠ .nan) (hm' : m'.sortPrice ≠ .nan) :
    m.rankedBefore m' = decide (m.key ≤ m'.key) := by
  rw [Bool.eq_iff_iff, decide_eq_true_eq, Model.key_le_key, Model.rankedBefore]
  split_ifs with hfree
  · rw [Bool.not_eq_true', ← Bool.not_eq_true, Binary64.lt_iff_level hm' hm, not_lt]
    simp [hfree]
  · cases hm : m.isFree <;> cases hm' : m'.isFree <;> simp_all

theorem Model.key_le_iff (hm : m.sortPrice ≠ .nan) (hm' : m'.sortPrice ≠ .nan) :
    m.key ≤ m'.key ↔ (m'.isFree = true → m.isFree = true) ∧
      (m.isFree = false → m'.isFree = false → m.sortPrice.le m'.sortPrice = true) := by
  rw [key_le_key, Binary64.le_iff_level hm hm']
  cases hfree : m.isFree <;> cases hfree' : m'.isFree
  · simp
  · simp
  · simp
  · simp [level_of_isFree hm hfree, level_of_isFree hm' hfree']

theorem tied_eq (hm : m.sortPrice ≠ .nan) (hm' : m'.sortPrice ≠ .nan) :
    tied m m' = decide (m'.key = m.key) := by
  rw [Bool.eq_iff_iff, decide_eq_true_eq, tied, Bool.and_eq_true, beq_iff_eq,
    Binary64.eq_iff_level hm hm', Model.key, Model.key, toLex_inj, Prod.mk.injEq, Bool.not_inj_iff]
  exact and_congr eq_comm eq_comm

/-- Prices are known if none of them is below zero. -/
theorem known?_eq_some {p q : Pricing} (hinput : p.input ≠ .nan) (houtput : p.output ≠ .nan) :
    known? p = some q ↔
      p = q ∧ q.input.lt .zero = false ∧ q.output.lt .zero = false := by
  have hknown : Binary64.zero.le (p.input.least p.output) = true ↔
      p.input.lt .zero = false ∧ p.output.lt .zero = false := by
    simp only [← Bool.not_eq_true, Binary64.lt_iff_level hinput (y := .zero) (by decide),
      Binary64.lt_iff_level houtput (y := .zero) (by decide), not_lt]
    rw [Binary64.least]
    split_ifs with hless
    · rw [Binary64.lt_iff_level houtput hinput] at hless
      rw [Binary64.le_iff_level (by decide) houtput]
      exact ⟨fun h => ⟨h.trans hless.le, h⟩, And.right⟩
    · rw [Binary64.lt_iff_level houtput hinput, not_lt] at hless
      rw [Binary64.le_iff_level (by decide) hinput]
      exact ⟨fun h => ⟨h, h.trans hless⟩, And.left⟩
  rw [known?]
  constructor
  · intro h
    split_ifs at h with hzero
    obtain rfl := Option.some.inj h
    exact ⟨rfl, hknown.1 hzero⟩
  · rintro ⟨rfl, hprices⟩
    rw [if_pos (hknown.2 hprices)]

/-- What the list of models and the price list tell of a model. -/
theorem listed?_eq_some (hprices : Numeric prices) {id : String} :
    listed? prices id = some m ↔ m.id = id ∧ (classify m.id).isVision = true ∧
      (m.name = displayName m.id ∧ m.modes = (classify m.id).modes) ∧
      ∀ p, m.pricing = some p ↔
        prices.find? m.id = some p ∧ p.input.lt .zero = false ∧ p.output.lt .zero = false := by
  have hpricing (p : Pricing) : (prices.find? id).bind known? = some p ↔
      prices.find? id = some p ∧ p.input.lt .zero = false ∧ p.output.lt .zero = false := by
    rw [Option.bind_eq_some_iff]
    constructor
    · rintro ⟨q, hq, hknown⟩
      obtain ⟨hinput, houtput⟩ := hprices id q hq
      obtain ⟨rfl, hp⟩ := (known?_eq_some hinput houtput).1 hknown
      exact ⟨hq, hp⟩
    · rintro ⟨hp, hprice⟩
      obtain ⟨hinput, houtput⟩ := hprices id p hp
      exact ⟨p, hp, (known?_eq_some hinput houtput).2 ⟨rfl, hprice⟩⟩
  obtain ⟨mid, name, pricing, modes⟩ := m
  rw [listed?]
  dsimp only
  constructor
  · intro h
    split_ifs at h with hvision
    obtain ⟨rfl, rfl, rfl, rfl⟩ := Model.mk.inj (Option.some.inj h)
    exact ⟨rfl, hvision, ⟨rfl, rfl⟩, hpricing⟩
  · rintro ⟨rfl, hvision, ⟨rfl, rfl⟩, hpriced⟩
    rw [if_pos hvision, Option.ext fun p => (hpricing p).trans (hpriced p).symm]

/-- The models that see pictures, in the order of the list. -/
def visionListing (ids : List String) (prices : Dictionary Pricing) : List Model :=
  ids.filterMap (listed? prices)

theorem sortPrice_ne_nan (hprices : Numeric prices) (h : listed? prices m.id = some m) :
    m.sortPrice ≠ .nan := by
  obtain ⟨-, -, -, hpriced⟩ := (listed?_eq_some hprices).1 h
  rw [Model.sortPrice]
  cases hp : m.pricing with
  | none => decide
  | some p => exact (hprices m.id p ((hpriced p).1 hp).1).1

theorem listed?_of_mem (hprices : Numeric prices) (h : m ∈ visionListing ids prices) :
    listed? prices m.id = some m := by
  obtain ⟨id, -, hid⟩ := List.mem_filterMap.1 h
  rwa [((listed?_eq_some hprices).1 hid).1]

/-- Models that are as they are listed are found again by their ids. -/
theorem visionListing_ids (h : ∀ m ∈ models, listed? prices m.id = some m) :
    visionListing (models.map (·.id)) prices = models := by
  rw [visionListing, List.filterMap_map]
  exact (List.filterMap_congr h).trans List.filterMap_some

theorem visionListing_filter (ids : List String) (prices : Dictionary Pricing) :
    visionListing (ids.filter fun id => (classify id).isVision) prices =
      visionListing ids prices := by
  rw [visionListing, List.filterMap_filter]
  refine List.filterMap_congr fun id _ => ?_
  rw [listed?]
  split_ifs <;> simp_all

theorem ids_visionListing (ids : List String) (prices : Dictionary Pricing) :
    (visionListing ids prices).map (·.id) = ids.filter fun id => (classify id).isVision := by
  rw [visionListing, List.map_filterMap, ← List.filterMap_eq_filter]
  refine List.filterMap_congr fun id _ => ?_
  rw [listed?]
  split_ifs <;> simp_all [Option.guard]

theorem Ranking.listed (hprices : Numeric prices) (h : Ranking ids prices models)
    (hm : m ∈ models) : listed? prices m.id = some m := by
  have hid : m.id ∈ ids.filter fun id => (classify id).isVision :=
    h.complete.subset (List.mem_map_of_mem hm)
  exact (listed?_eq_some hprices).2
    ⟨rfl, (List.mem_filter.1 hid).2, h.described m hm, h.priced m hm⟩

theorem Ranking.perm_visionListing (hprices : Numeric prices) (h : Ranking ids prices models) :
    models.Perm (visionListing ids prices) := by
  have hperm := h.complete.filterMap (listed? prices)
  rwa [← visionListing, ← visionListing, visionListing_filter,
    visionListing_ids fun m hm => h.listed hprices hm] at hperm

/-- A ranking has the models of one rank as the list has them. -/
theorem Ranking.filter_tied (hprices : Numeric prices) (h : Ranking ids prices models)
    (hm : m ∈ models) : models.filter (tied m) = (visionListing ids prices).filter (tied m) := by
  -- a sublist of the class that is as long as the class
  have hsub := ((h.inOrder m hm).filterMap (listed? prices)).filter (tied m)
  have hclass : ∀ a ∈ models.filter (tied m), listed? prices a.id = some a :=
    fun a ha => h.listed hprices (List.mem_filter.1 ha).1
  rw [← visionListing, ← visionListing, visionListing_ids hclass, List.filter_filter] at hsub
  simp only [Bool.and_self] at hsub
  exact hsub.eq_of_length ((h.perm_visionListing hprices).filter _).length_eq

theorem Ranking.sorted (hprices : Numeric prices) (h : Ranking ids prices models) :
    models.Pairwise fun a b => a.key ≤ b.key := by
  refine (h.freeFirst.and h.ascending).imp_of_mem fun {a b} ha hb hab => ?_
  exact (Model.key_le_iff (sortPrice_ne_nan hprices (h.listed hprices ha))
    (sortPrice_ne_nan hprices (h.listed hprices hb))).2 hab

theorem filter_tied_eq (hm : m.sortPrice ≠ .nan) (h : ∀ a ∈ models, a.sortPrice ≠ .nan) :
    models.filter (tied m) = models.filter (·.key = m.key) :=
  List.filter_congr fun a ha => tied_eq hm (h a ha)

theorem ranking_catalog (hprices : Numeric prices) : Ranking ids prices (catalog ids prices) := by
  have hperm : (catalog ids prices).Perm (visionListing ids prices) := List.mergeSort_perm _ _
  have hlisted (m : Model) (hm : m ∈ catalog ids prices) : listed? prices m.id = some m :=
    listed?_of_mem hprices (hperm.subset hm)
  have hnumber (m : Model) (hm : m ∈ catalog ids prices) : m.sortPrice ≠ .nan :=
    sortPrice_ne_nan hprices (hlisted m hm)
  have hkeys : ∀ a ∈ visionListing ids prices, ∀ b ∈ visionListing ids prices,
      a.rankedBefore b = decide (a.key ≤ b.key) := fun a ha b hb =>
    rankedBefore_eq (hnumber a (hperm.mem_iff.2 ha)) (hnumber b (hperm.mem_iff.2 hb))
  obtain ⟨hsorted, hclasses⟩ := mergeSort_by_key hkeys
  have hranks : (catalog ids prices).Pairwise fun a b =>
      (b.isFree = true → a.isFree = true) ∧
        (a.isFree = false → b.isFree = false → a.sortPrice.le b.sortPrice = true) :=
    hsorted.imp_of_mem fun ha hb hab => (Model.key_le_iff (hnumber _ ha) (hnumber _ hb)).1 hab
  refine ⟨?_, ?_, ?_, hranks.imp And.left, hranks.imp And.right, fun m hm => ?_⟩
  · rw [← ids_visionListing ids prices]
    exact hperm.map _
  · intro m hm
    exact ((listed?_eq_some hprices).1 (hlisted m hm)).2.2.1
  · intro m hm
    exact ((listed?_eq_some hprices).1 (hlisted m hm)).2.2.2
  · rw [filter_tied_eq (hnumber m hm) hnumber, catalog, ← visionListing, hclasses]
    refine (List.filter_sublist.map _).trans ?_
    rw [ids_visionListing]
    exact List.filter_sublist

/-- There is one ranking. -/
theorem Ranking.unique (hprices : Numeric prices) {models' : List Model}
    (h : Ranking ids prices models) (h' : Ranking ids prices models') : models = models' := by
  have hperm := (h.perm_visionListing hprices).trans (h'.perm_visionListing hprices).symm
  have hnumber (m : Model) (hm : m ∈ models) : m.sortPrice ≠ .nan :=
    sortPrice_ne_nan hprices (h.listed hprices hm)
  have hnumber' (m : Model) (hm : m ∈ models') : m.sortPrice ≠ .nan :=
    hnumber m (hperm.mem_iff.2 hm)
  refine eq_of_sorted (h.sorted hprices) (h'.sorted hprices) hperm fun m hm => ?_
  rw [← filter_tied_eq (hnumber m hm) hnumber, ← filter_tied_eq (hnumber m hm) hnumber',
    h.filter_tied hprices hm, h'.filter_tied hprices (hperm.subset hm)]

end

/-- The catalog is the one ranking of the models that see pictures. -/
theorem ranking_iff_catalog (ids : List String) (prices : Dictionary Pricing)
    (models : List Model) (hprices : Numeric prices) :
    Ranking ids prices models ↔ models = catalog ids prices := by
  constructor
  · intro h
    exact h.unique hprices (ranking_catalog hprices)
  · rintro rfl
    exact ranking_catalog hprices

/-- Models that see pictures, one of them listed twice, and one that does not. -/
def shelf : List String :=
  ["a/VL", "b/VL", "c/VL", "text", "d/VL", "b/VL"]

/-- Two prices, one that counts as not known, and none at all. -/
def shelfPrices : Dictionary Pricing :=
  [("a/VL", ⟨.finite false 2, .zero⟩), ("b/VL", ⟨.zero, .finite false 1⟩),
    ("c/VL", ⟨.finite false 1, .finite true 1⟩), ("d/VL", ⟨.zero, .zero⟩)]

theorem numeric_shelfPrices : Numeric shelfPrices := by
  intro id p hp
  have hall : ∀ entry ∈ shelfPrices, entry.2.input ≠ .nan ∧ entry.2.output ≠ .nan := by decide
  exact hall (id, p) (Dictionary.mem_of_find? hp)

def rankedShelf : List Model :=
  [⟨"d/VL", "VL", some ⟨.zero, .zero⟩, [.formula, .ocr]⟩,
    ⟨"b/VL", "VL", some ⟨.zero, .finite false 1⟩, [.formula, .ocr]⟩,
    ⟨"c/VL", "VL", none, [.formula, .ocr]⟩,
    ⟨"b/VL", "VL", some ⟨.zero, .finite false 1⟩, [.formula, .ocr]⟩,
    ⟨"a/VL", "VL", some ⟨.finite false 2, .zero⟩, [.formula, .ocr]⟩]

/-- The price that is not known and the one of nothing are of one rank. -/
theorem catalog_shelf : Numeric shelfPrices ∧ rankedShelf = catalog shelf shelfPrices := by
  have hlisted : ∀ m ∈ rankedShelf, listed? shelfPrices m.id = some m := by decide
  have hfacts (m : Model) (hm : m ∈ rankedShelf) :=
    ((listed?_eq_some numeric_shelfPrices).1 (hlisted m hm)).2.2
  refine ⟨numeric_shelfPrices, (ranking_iff_catalog _ _ _ numeric_shelfPrices).1 ?_⟩
  refine ⟨?complete, fun m hm => (hfacts m hm).1, fun m hm => (hfacts m hm).2, ?free, ?price,
    ?order⟩
  case complete => decide
  case free => decide
  case price => decide
  case order => decide

end SiliconFlow

end FormulaOcr
