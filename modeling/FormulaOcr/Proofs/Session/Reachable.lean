import FormulaOcr.Proofs.Session.Steady

/-! The worlds that sessions come to, from a fresh service on, whatever happens to it from inside
and outside. -/

namespace FormulaOcr

open FormulaOcr.Action

/-- Worlds that a session can come to. Before each event the network and the browser may be other
ones. -/
inductive Reachable : World → Prop
  | fresh (configuration : Configuration) (nodes : List (List String × Node)) (today : String)
      (network : List Outcome) (browser : Bool) :
      Reachable (Session.fresh configuration nodes today network browser)
  | prepared {w : World} (network : List Outcome) (browser : Bool) (h : Reachable w) :
      Reachable { w with network, browser, calls := [], opened := [] }
  | event {w : World} (e : Session.Event) (h : Reachable w) : Reachable (exec (Session.run e) w).2

/-- The store and the counters of a process lie in files of their names. -/
structure World.Chosen (w : World) : Prop where
  store : ∀ s, w.store = some s → ∃ dir : Path, s.path = dir.child Store.filename
  counters : ∀ p, w.counterPath = some p → ∃ dir : Path, p = dir.child Usage.filename

theorem steady_chosen : Steady World.Chosen fun _ => True where
  spoken w hw := by
    obtain ⟨kept, hspoken⟩ := World.spoken_eq w
    rw [hspoken]
    exact ⟨hw.store, hw.counters⟩
  called w network calls hw := ⟨hw.store, hw.counters⟩
  opened w opened hw := ⟨hw.store, hw.counters⟩
  made w dir hw _ := ⟨hw.store, hw.counters⟩
  remade w s hw _ := ⟨hw.store, hw.counters⟩
  tracked w dir hw _ _ _ := by
    refine ⟨hw.store, fun p hp => ⟨dir, ?_⟩⟩
    exact (Option.some.inj hp).symm
  loaded w dir hw _ _ _ := by
    refine ⟨fun s hs => ⟨dir, ?_⟩, hw.counters⟩
    rw [← Option.some.inj hs]
  changed w s values hw hs _ := by
    refine ⟨fun s' hs' => ?_, hw.counters⟩
    rw [← Option.some.inj hs']
    exact hw.store s hs
  written w s d hw hs hwrite := ⟨hw.store, hw.counters⟩
  defaults _ _ := trivial

theorem serves_chosen : Serves (Only World.Chosen) (Only (WithStore World.Chosen)) fun _ => True :=
  steady_chosen.serves (fun _ _ hw _ => ⟨hw.store, hw.counters⟩)
    (fun _ _ _ _ hw _ _ => ⟨hw.store, hw.counters⟩) (fun _ _ hw => ⟨hw.store, hw.counters⟩)

theorem chosen_event (e : Session.Event) {w : World} (hw : w.Chosen) :
    (exec (Session.run e) w).2.Chosen := by
  have hserved (he : e.Served fun _ => True) : (exec (Session.run e) w).2.Chosen :=
    agrees_only.1 (serves_chosen.event (fun _ _ => trivial) he) w hw
  cases e with
  | connection frames => exact hserved fun _ _ c _ => c.stores_true
  | store q => cases q <;> exact hserved trivial
  | request | startup | usage | paths | clock => exact hserved trivial
  | put | remove | configure => exact ⟨hw.store, hw.counters⟩
  | restart => exact ⟨fun s hs => (nomatch hs), fun p hp => (nomatch hp)⟩

theorem store_fresh (configuration : Configuration) (nodes : List (List String × Node))
    (today : String) (network : List Outcome) (browser : Bool) :
    (Session.fresh configuration nodes today network browser).store = none ∧
      (Session.fresh configuration nodes today network browser).counterPath = none := by
  have hput (w : World) (hw : w.store = none ∧ w.counterPath = none) :
      (nodes.foldl (fun w entry => Session.putNode entry.1 entry.2 w) w).store = none ∧
        (nodes.foldl (fun w entry => Session.putNode entry.1 entry.2 w) w).counterPath = none := by
    induction nodes generalizing w with
    | nil => exact hw
    | cons entry nodes ih => exact ih _ hw
  exact hput _ ⟨rfl, rfl⟩

/-- Wherever a session goes, its state files keep their names. -/
theorem Reachable.chosen {w : World} (h : Reachable w) : w.Chosen := by
  induction h with
  | fresh configuration nodes today network browser =>
    obtain ⟨hstore, hcounters⟩ := store_fresh configuration nodes today network browser
    refine ⟨fun s hs => ?_, fun p hp => ?_⟩
    · rw [hstore] at hs
      exact nomatch hs
    · rw [hcounters] at hp
      exact nomatch hp
  | prepared network browser _ ih => exact ⟨ih.store, ih.counters⟩
  | event e _ ih => exact chosen_event e ih

end FormulaOcr
