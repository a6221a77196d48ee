import FormulaOcr.Proofs.Commands
import FormulaOcr.Proofs.Steps

/-! Properties of worlds that a service keeps. It is enough that they outlast the single changes
that steps make: one more call, a directory made, the store opened or written. -/

namespace FormulaOcr

open FormulaOcr.Action

/-- A property that outlasts each change which a service makes, counting aside. Directories are made
for the data and for the store, which is loaded from a directory that is there; what is stored has a
property of its own. -/
structure Steady (P : World → Prop) (V : Json → Prop) : Prop where
  spoken : ∀ w, P w → P w.spoken
  called : ∀ w network calls, P w → P { w with network, calls }
  opened : ∀ w opened, P w → P { w with opened }
  made : ∀ w dir, P w → w.configuration.dataPath = .ok dir →
    P { w with disk := (w.disk.makeDirectories dir).2 }
  remade : ∀ w s, P w → w.store = some s →
    P { w with disk := (w.disk.makeDirectories (parent s.path)).2 }
  tracked : ∀ w (dir : Path), P w → w.configuration.dataPath = .ok dir →
    w.disk.isDirectory dir = true → w.counterPath = none →
    P { w with counterPath := some (dir.child Usage.filename) }
  loaded : ∀ w (dir : Path), P w → w.configuration.dataPath = .ok dir →
    w.disk.isDirectory dir = true → w.store = none →
    P { w with store := some ⟨dir.child Store.filename,
      Store.valuesOf (contentOf w.disk (dir.child Store.filename))⟩ }
  changed : ∀ w s values, P w → w.store = some s →
    (∀ entry ∈ values, entry ∈ s.values ∨ V entry.2) → P { w with store := some { s with values } }
  written : ∀ w s d, P w → w.store = some s →
    w.disk.write s.path (Encoding.Utf8.encode (Store.fileText s.values)) = .ok d →
    P { w with disk := d }
  defaults : ∀ entry ∈ Store.defaults, V entry.2

/-- A property of worlds with an open store. -/
def WithStore (P : World → Prop) (w : World) : Prop :=
  P w ∧ w.store.isSome = true

/-- The data directory is there once it is chosen. -/
theorem Action.dataDirectory_ok {w v : World} {dir : Path}
    (h : exec dataDirectory w = (.ok dir, v)) :
    v.configuration.dataPath = .ok dir ∧ v.disk.isDirectory dir = true := by
  rw [exec_dataDirectory] at h
  split at h
  · simp at h
  · next dir' hdata =>
    have hdir := Disk.isDirectory_makeDirectories (d := w.disk) (p := dir')
    generalize w.disk.makeDirectories dir' = done at h hdir
    obtain ⟨made, d⟩ := done
    cases made with
    | error f => simp [Except.mapError, Except.map] at h
    | ok _ =>
      obtain ⟨hresult, rfl⟩ := Prod.mk.inj h
      obtain rfl : dir' = dir := Except.ok.inj hresult
      exact ⟨hdata, hdir rfl⟩

/-- What does not depend on the translators is kept when one is loaded. -/
theorem Action.agrees_translator_of {P : World → Prop}
    (hP : ∀ w kept, P w → P { w with translators := kept }) : Agrees (Only P) translator := by
  refine agrees_only.2 fun w hw => ?_
  obtain ⟨kept, hspoken⟩ := World.spoken_eq w
  rw [exec_translator, hspoken]
  exact hP w kept hw

/-- A property is kept by the steps that need no store if it outlasts a call, an opened page, and
the choice of a translator and of counters. -/
theorem basics_only {P : World → Prop} (htranslator : Agrees (Only P) translator)
    (hcalled : ∀ (w : World) (call : Call), P w →
      P { w with network := (taken w.network).2, calls := w.calls ++ [call] })
    (hopened : ∀ (w : World) (opened : List String), P w → P { w with opened })
    (hcounters : Agrees (Only P) counterPath) : Basics (Only P) where
  configuration w v hR := by rw [hR.1]
  today w v hR := by rw [hR.1]
  browser w v hR := by rw [hR.1]
  translator := htranslator
  exchange call := agrees_only.2 fun w hw => by
    rw [exec_exchange]
    exact hcalled w call hw
  opened url w v hR := by
    obtain ⟨rfl, hw⟩ := hR
    exact ⟨rfl, hopened w _ hw⟩
  counterPath := hcounters
  loadUsage := hcounters.bind fun p =>
    Agrees.bind (agrees_only.2 fun w hw => by rwa [exec_readFile]) fun content => Agrees.pure _

/-- The steps that need no store leave it alone. On the disk they make directories at most, and
the counters that they choose have a name of their own. -/
theorem basics_of_grown {P : World → Prop}
    (hP : ∀ w v, v.store = w.store → w.disk.Grows v.disk →
      (v.counterPath = w.counterPath ∨
        ∃ dir : Path, v.counterPath = some (dir.child Usage.filename)) → P w → P v) :
    Basics (Only P) := by
  have hcounters (w : World) (hw : P w) : P (exec counterPath w).2 := by
    cases hpath : w.counterPath with
    | some p =>
      rw [exec_counterPath hpath]
      exact hw
    | none =>
      have hstore := store_dataDirectory w
      have hsame := counterPath_dataDirectory w
      have hgrows := grows_dataDirectory w
      rw [exec_counterPath_none hpath]
      generalize exec dataDirectory w = done at hstore hsame hgrows ⊢
      obtain ⟨result, v⟩ := done
      cases result with
      | error e => exact hP w v hstore hgrows (.inl hsame) hw
      | ok dir => exact hP w { v with counterPath := _ } hstore hgrows (.inr ⟨dir, rfl⟩) hw
  have hsame (w v : World) (hstore : v.store = w.store) (hdisk : v.disk = w.disk)
      (hpath : v.counterPath = w.counterPath) (hw : P w) : P v :=
    hP w v hstore (hdisk ▸ Disk.Grows.refl _) (.inl hpath) hw
  exact basics_only (agrees_translator_of fun w kept => hsame w _ rfl rfl rfl)
    (fun w call => hsame w _ rfl rfl rfl) (fun w opened => hsame w _ rfl rfl rfl)
    (agrees_only.2 hcounters)

/-- What depends on the store alone is kept by the steps that need no store. -/
theorem basics_of_store {P : World → Prop} (hP : ∀ w v, v.store = w.store → P w → P v) :
    Basics (Only P) :=
  basics_of_grown fun w v hstore _ _ => hP w v hstore

namespace Steady

variable {P : World → Prop} {V : Json → Prop}

theorem withStore (h : Steady P V) : Steady (WithStore P) V where
  spoken w hw := by
    obtain ⟨kept, hspoken⟩ := World.spoken_eq w
    refine ⟨h.spoken w hw.1, ?_⟩
    rw [hspoken]
    exact hw.2
  called w network calls hw := ⟨h.called w network calls hw.1, hw.2⟩
  opened w opened hw := ⟨h.opened w opened hw.1, hw.2⟩
  made w dir hw hdata := ⟨h.made w dir hw.1 hdata, hw.2⟩
  remade w s hw hs := ⟨h.remade w s hw.1 hs, hw.2⟩
  tracked w dir hw hdata hdir hnone := ⟨h.tracked w dir hw.1 hdata hdir hnone, hw.2⟩
  loaded w dir hw hdata hdir hnone := ⟨h.loaded w dir hw.1 hdata hdir hnone, rfl⟩
  changed w s values hw hs hvalues := ⟨h.changed w s values hw.1 hs hvalues, rfl⟩
  written w s d hw hs hwrite := ⟨h.written w s d hw.1 hs hwrite, hw.2⟩
  defaults := h.defaults

/-- A service is never configured anew by itself. -/
theorem configured (h : Steady P V) (c : Configuration) :
    Steady (fun w => P w ∧ w.configuration = c) V where
  spoken w hw := by
    obtain ⟨kept, hspoken⟩ := World.spoken_eq w
    refine ⟨h.spoken w hw.1, ?_⟩
    rw [hspoken]
    exact hw.2
  called w network calls hw := ⟨h.called w network calls hw.1, hw.2⟩
  opened w opened hw := ⟨h.opened w opened hw.1, hw.2⟩
  made w dir hw hdata := ⟨h.made w dir hw.1 hdata, hw.2⟩
  remade w s hw hs := ⟨h.remade w s hw.1 hs, hw.2⟩
  tracked w dir hw hdata hdir hnone := ⟨h.tracked w dir hw.1 hdata hdir hnone, hw.2⟩
  loaded w dir hw hdata hdir hnone := ⟨h.loaded w dir hw.1 hdata hdir hnone, hw.2⟩
  changed w s values hw hs hvalues := ⟨h.changed w s values hw.1 hs hvalues, hw.2⟩
  written w s d hw hs hwrite := ⟨h.written w s d hw.1 hs hwrite, hw.2⟩
  defaults := h.defaults

variable (h : Steady P V)
include h

theorem dataDirectory {w : World} (hw : P w) : P (exec dataDirectory w).2 := by
  rw [exec_dataDirectory]
  cases hdata : w.configuration.dataPath with
  | error c => exact hw
  | ok dir => exact h.made w dir hw hdata

theorem counterPath {w : World} (hw : P w) : P (exec counterPath w).2 := by
  cases hpath : w.counterPath with
  | some p =>
    rw [exec_counterPath hpath]
    exact hw
  | none =>
    have hmade := h.dataDirectory hw
    have hsame := counterPath_dataDirectory w
    rw [exec_counterPath_none hpath]
    cases hdone : exec Action.dataDirectory w with
    | mk result v =>
      rw [hdone] at hmade hsame
      cases result with
      | error e => exact hmade
      | ok dir =>
        obtain ⟨hdata, hdir⟩ := dataDirectory_ok hdone
        exact h.tracked v dir hmade hdata hdir (hsame.trans hpath)

theorem basics : Basics (Only P) := by
  have htranslator : Agrees (Only P) translator :=
    agrees_only.2 fun w hw => by
      rw [exec_translator]
      exact h.spoken w hw
  exact basics_only htranslator (fun w _ hw => h.called w _ _ hw) h.opened
    (agrees_only.2 fun w hw => h.counterPath hw)

omit h in
/-- A file is written in a directory that was made for it. -/
theorem writeFile {w : World} {p : Path} {text : List Char}
    (hmade : P { w with disk := (w.disk.makeDirectories (parent p)).2 })
    (hwritten : ∀ d d', P { w with disk := d } → d.write p (Encoding.Utf8.encode text) = .ok d' →
      P { w with disk := d' }) : P (exec (writeFile p text) w).2 := by
  rw [exec_writeFile]
  generalize w.disk.makeDirectories (parent p) = done at hmade ⊢
  obtain ⟨made, d⟩ := done
  cases made with
  | error f => exact hmade
  | ok _ =>
    dsimp only
    cases hwrite : d.write p (Encoding.Utf8.encode text) with
    | error f => exact hmade
    | ok d' => exact hwritten d d' hmade hwrite

theorem saveStore {w : World} {s : Store} (hw : P w) (hs : w.store = some s)
    {values : Dictionary Json} (hvalues : ∀ entry ∈ values, entry ∈ s.values ∨ V entry.2) :
    P (exec (saveStore { s with values }) w).2 := by
  have hchanged := h.changed w s values hw hs hvalues
  rw [exec_saveStore]
  exact writeFile (h.remade _ _ hchanged rfl)
    (fun d d' hd hwrite =>
      h.written { w with store := some { s with values }, disk := d } _ d' hd rfl hwrite)

theorem ensureDefaults {w : World} {s : Store} (hw : P w) (hs : w.store = some s) :
    P (exec ensureDefaults w).2 := by
  rw [exec_ensureDefaults hs]
  split_ifs
  · exact hw
  · exact h.saveStore hw hs fun entry hentry => (Dictionary.mem_of_mem_merge hentry).imp_right
      fun hmissing => h.defaults entry (List.mem_of_mem_filter hmissing)

/-- The steps with an open store keep the property. -/
theorem conforms : Conforms (Only (WithStore P)) V where
  toBasics := h.withStore.basics
  store w v hR := by rw [hR.1]
  setStored name value hvalue := agrees_only.2 fun w hw => by
    obtain ⟨s, hs⟩ := Option.isSome_iff_exists.1 hw.2
    rw [exec_setStored hs]
    refine h.withStore.saveStore hw hs fun entry hentry => ?_
    rcases Dictionary.mem_of_mem_assign hentry with hkept | rfl
    · exact .inl hkept
    · exact .inr hvalue
  ensureDefaults := agrees_only.2 fun w hw => by
    obtain ⟨s, hs⟩ := Option.isSome_iff_exists.1 hw.2
    exact h.withStore.ensureDefaults hw hs

theorem openStore {w : World} (hw : P w) :
    P (exec openStore w).2 ∧
      ((exec openStore w).1 = .ok () → (exec openStore w).2.store.isSome = true) := by
  cases hstore : w.store with
  | some s =>
    rw [exec_openStore_some hstore]
    refine ⟨hw, fun _ => ?_⟩
    rw [hstore]
    rfl
  | none =>
    have hmade := h.dataDirectory hw
    have hsame := store_dataDirectory w
    rw [exec_openStore_none hstore]
    cases hdone : exec Action.dataDirectory w with
    | mk result v =>
      rw [hdone] at hmade hsame
      cases result with
      | error e =>
        refine ⟨hmade, fun hok => ?_⟩
        simp at hok
      | ok dir =>
        obtain ⟨hdata, hdir⟩ := dataDirectory_ok hdone
        have hloaded := h.loaded v dir hmade hdata hdir (hsame.trans hstore)
        have hdefaults :=
          h.withStore.ensureDefaults (w := { v with store := _ }) ⟨hloaded, rfl⟩ rfl
        exact ⟨hdefaults.1, fun _ => hdefaults.2⟩

theorem opens : Opens (Only P) (Only (WithStore P)) where
  within w v hR := ⟨hR.1, hR.2.1⟩
  opens w v hR := by
    obtain ⟨rfl, hw⟩ := hR
    obtain ⟨hkept, hopen⟩ := h.openStore hw
    exact ⟨rfl, ⟨rfl, hkept⟩, fun hok => ⟨rfl, hkept, hopen hok⟩⟩

variable (hremade : ∀ w p, P w → w.counterPath = some p →
    P { w with disk := (w.disk.makeDirectories (parent p)).2 })
  (hcounted : ∀ w p bytes d, P w → w.counterPath = some p → w.disk.write p bytes = .ok d →
    P { w with disk := d })
include hremade hcounted

theorem countRecognition {w : World} (hw : P w) (id : String) :
    P (exec (countRecognition id) w).2 := by
  have hchosen := h.counterPath hw
  rw [exec_countRecognition_eq]
  cases hpath : exec Action.counterPath w with
  | mk result v =>
    rw [hpath] at hchosen
    cases result with
    | error e => exact hchosen
    | ok p =>
      have hp : v.counterPath = some p := counterPath_ok hpath
      exact writeFile (hremade v p hchosen hp)
        (fun d d' hd hwrite => hcounted { v with disk := d } p _ d' hd hp hwrite)

/-- A service keeps the property if it outlasts the change of the date and the writing of the
counters. -/
theorem serves (hclock : ∀ w today, P w → P { w with today }) :
    Serves (Only P) (Only (WithStore P)) V where
  basics := h.basics
  opens := h.opens
  conforms := h.conforms
  count id := agrees_only.2 fun w hw => h.countRecognition hremade hcounted hw id
  countOpen id := agrees_only.2 fun w hw => h.withStore.countRecognition
    (fun w p hw hp => ⟨hremade w p hw.1 hp, hw.2⟩)
    (fun w p bytes d hw hp hwrite => ⟨hcounted w p bytes d hw.1 hp hwrite, hw.2⟩) hw id
  clock today w v hR := by
    obtain ⟨rfl, hw⟩ := hR
    exact ⟨rfl, hclock w today hw⟩

end Steady

end FormulaOcr
