import FormulaOcr.Proofs.Localization.Tables
import FormulaOcr.Proofs.Localization.Wording
import FormulaOcr.Proofs.Usage.File

/-! What the single steps of a service do to the world: an exchange, choosing the data directory,
opening the store and the counters, and writing to them. -/

namespace FormulaOcr

/-- The names of the files that a service writes. -/
def stateFiles : List String :=
  [Store.filename, Usage.filename]

theorem child_storeFilename (dir : Path) :
    dir.child Store.filename = ⟨dir.root, dir.steps ++ [Store.filename]⟩ := rfl

theorem child_usageFilename (dir : Path) :
    dir.child Usage.filename = ⟨dir.root, dir.steps ++ [Usage.filename]⟩ := rfl

namespace Action

variable {w : World}

theorem parent_storeFilename (dir : Path) : parent (dir.child Store.filename) = dir := by
  rw [child_storeFilename, parent, List.dropLast_concat]

theorem parent_usageFilename (dir : Path) : parent (dir.child Usage.filename) = dir := by
  rw [child_usageFilename, parent, List.dropLast_concat]

/-- The outcome that a call takes from the network, and those that it leaves. -/
def taken : List Outcome → Outcome × List Outcome
  | outcome :: rest => (outcome, rest)
  | [] => (.interrupted ⟨"ConnectError", "no scripted response"⟩, [])

/-- What a call gives back for an outcome; a cause that lies elsewhere than in the network is a
crash. -/
def givenBack : Outcome → Except Fault (Except Interruption Response)
  | .response r => .ok (.ok r)
  | .interrupted i => if i.isNetwork then .ok (.error i) else .error (.crash (.interruption i))

/-- A call takes an outcome and is recorded. -/
theorem exec_exchange (call : Call) (w : World) :
    exec (exchange call) w =
      (givenBack (taken w.network).1,
        { w with network := (taken w.network).2, calls := w.calls ++ [call] }) := by
  obtain ⟨configuration, disk, today, network, browser, calls, opened, store, path, kept⟩ := w
  rw [exchange, exec_bind, exec_get]
  cases network with
  | nil => rfl
  | cons outcome rest =>
    dsimp only [taken]
    rw [exec_bind, exec_set]
    cases outcome with
    | response r => rfl
    | interrupted i =>
      dsimp only [givenBack]
      split_ifs <;> rfl

/-- The data directory is made on the spot. -/
theorem exec_dataDirectory (w : World) :
    exec dataDirectory w =
      match w.configuration.dataPath with
      | .error c => (.error (.crash c), w)
      | .ok dir =>
        (((w.disk.makeDirectories dir).1.mapError (.crash ∘ .disk)).map fun _ => dir,
          { w with disk := (w.disk.makeDirectories dir).2 }) := by
  rw [dataDirectory, exec_bind, exec_get]
  dsimp only
  rw [exec_bind, exec_ofCrash]
  cases w.configuration.dataPath with
  | error c => rfl
  | ok dir =>
    dsimp only [Except.mapError]
    rw [exec_bind, exec_get]
    dsimp only
    rcases w.disk.makeDirectories dir with ⟨made, d⟩
    dsimp only
    rw [exec_bind, exec_set]
    dsimp only
    rw [exec_bind, exec_ofCrash]
    cases made <;> rfl

theorem exec_dataDirectory_there {dir : Path} (hdata : w.configuration.dataPath = .ok dir)
    (hdir : w.disk.isDirectory dir = true) : exec dataDirectory w = (.ok dir, w) := by
  rw [exec_dataDirectory, hdata]
  dsimp only
  rw [Disk.makeDirectories_of_isDirectory hdir]
  rfl

theorem exec_dataDirectory_snd (w : World) :
    ∃ d, (exec dataDirectory w).2 = { w with disk := d } := by
  rw [exec_dataDirectory]
  cases w.configuration.dataPath <;> exact ⟨_, rfl⟩

theorem counterPath_dataDirectory (w : World) :
    (exec dataDirectory w).2.counterPath = w.counterPath := by
  obtain ⟨d, hd⟩ := exec_dataDirectory_snd w
  rw [hd]

theorem store_dataDirectory (w : World) : (exec dataDirectory w).2.store = w.store := by
  obtain ⟨d, hd⟩ := exec_dataDirectory_snd w
  rw [hd]

theorem grows_dataDirectory (w : World) : w.disk.Grows (exec dataDirectory w).2.disk := by
  rw [exec_dataDirectory]
  cases w.configuration.dataPath with
  | error c => exact Disk.Grows.refl _
  | ok dir => exact Disk.grows_makeDirectories _ _

/-- Choosing the counters makes the data directory. -/
theorem exec_counterPath_none (h : w.counterPath = none) :
    exec counterPath w =
      match exec dataDirectory w with
      | (.error e, v) => (.error e, v)
      | (.ok dir, v) =>
        (.ok (dir.child Usage.filename),
          { v with counterPath := some (dir.child Usage.filename) }) := by
  rw [counterPath, exec_bind, exec_get]
  dsimp only
  rw [h]
  dsimp only
  rw [exec_bind]
  rcases exec dataDirectory w with ⟨result, v⟩
  cases result <;> rfl

theorem store_counterPath (w : World) : (exec counterPath w).2.store = w.store := by
  cases hpath : w.counterPath with
  | some p => rw [exec_counterPath hpath]
  | none =>
    have hstore := store_dataDirectory w
    rw [exec_counterPath_none hpath]
    generalize exec dataDirectory w = done at hstore ⊢
    obtain ⟨result, v⟩ := done
    cases result <;> exact hstore

theorem store_loadUsage (w : World) : (exec loadUsage w).2.store = w.store := by
  have hstore := store_counterPath w
  rw [loadUsage, exec_bind]
  generalize exec counterPath w = done at hstore ⊢
  obtain ⟨result, v⟩ := done
  cases result with
  | error e => exact hstore
  | ok p =>
    dsimp only
    rw [exec_bind, exec_readFile]
    exact hstore

/-- The counters that were chosen stay chosen. -/
theorem counterPath_ok {w' : World} {p : Path} (h : exec counterPath w = (.ok p, w')) :
    w'.counterPath = some p := by
  cases hpath : w.counterPath with
  | some q =>
    rw [exec_counterPath hpath] at h
    obtain ⟨hq, rfl⟩ := Prod.mk.inj h
    rw [hpath, Except.ok.inj hq]
  | none =>
    rw [exec_counterPath_none hpath] at h
    generalize exec dataDirectory w = done at h
    obtain ⟨result, v⟩ := done
    cases result with
    | error e => simp at h
    | ok dir =>
      obtain ⟨hp, rfl⟩ := Prod.mk.inj h
      exact congrArg some (Except.ok.inj hp)

/-- Counting a recognition chooses the counters and writes them with one more of its model. -/
theorem exec_countRecognition_eq (id : String) (w : World) :
    exec (countRecognition id) w =
      match exec counterPath w with
      | (.error e, v) => (.error e, v)
      | (.ok p, v) =>
        exec (writeFile p ((Usage.inFile v.disk p).increment v.today id).fileText) v := by
  rw [countRecognition, exec_bind]
  cases hpath : exec counterPath w with
  | mk result v =>
    cases result with
    | error e => rfl
    | ok p =>
      dsimp only
      rw [exec_bind_ok (exec_loadUsage (counterPath_ok hpath)), exec_bind_ok (exec_get v)]

theorem exec_writeFile_snd (p : Path) (text : List Char) (w : World) :
    ∃ d, (exec (writeFile p text) w).2 = { w with disk := d } := by
  rw [exec_writeFile]
  rcases w.disk.makeDirectories (parent p) with ⟨made, d⟩
  cases made with
  | error f => exact ⟨d, rfl⟩
  | ok _ =>
    dsimp only
    cases d.write p (Encoding.Utf8.encode text) <;> exact ⟨_, rfl⟩

theorem store_countRecognition (id : String) (w : World) :
    (exec (countRecognition id) w).2.store = w.store := by
  have hstore := store_counterPath w
  rw [exec_countRecognition_eq]
  generalize exec counterPath w = done at hstore ⊢
  obtain ⟨result, v⟩ := done
  cases result with
  | error e => exact hstore
  | ok p =>
    obtain ⟨d, hd⟩ :=
      exec_writeFile_snd p ((Usage.inFile v.disk p).increment v.today id).fileText v
    dsimp only
    rw [hd]
    exact hstore

theorem exec_store (w : World) : exec store w = (.ok (w.store.getD ⟨⟨"", []⟩, []⟩), w) := rfl

theorem exec_storedText {s : Store} (h : w.store = some s) (name : String) :
    exec (storedText name) w = (.ok (s.text name), w) := by
  rw [storedText, exec_bind, exec_store, h]
  rfl

theorem exec_storedTexts {s : Store} (h : w.store = some s) (name : String) :
    exec (storedTexts name) w = (.ok (s.texts name), w) := by
  rw [storedTexts, exec_bind, exec_store, h]
  rfl

theorem exec_saveStore (s : Store) (w : World) :
    exec (saveStore s) w =
      exec (writeFile s.path (Store.fileText s.values)) { w with store := some s } := by
  rw [saveStore, exec_bind, exec_modify]

theorem exec_setStored {s : Store} (h : w.store = some s) (name : String) (value : Json) :
    exec (setStored name value) w =
      exec (saveStore { s with values := s.values.assign name value }) w := by
  rw [setStored, exec_bind, exec_store, h]
  rfl

theorem exec_ensureDefaults {s : Store} (h : w.store = some s) :
    exec ensureDefaults w =
      if (Store.missing s.values).isEmpty then (.ok (), w)
      else exec (saveStore { s with values := s.values.merge (Store.missing s.values) }) w := by
  rw [ensureDefaults, exec_bind, exec_store, h]
  dsimp only [Option.getD_some]
  split_ifs with hempty hempty' hempty' <;> simp_all
  rfl

/-- A store that is open stays as it is. -/
theorem exec_openStore_some {s : Store} (h : w.store = some s) :
    exec openStore w = (.ok (), w) := by
  rw [openStore, exec_bind, exec_get]
  dsimp only
  rw [h]
  rfl

/-- Opening a store makes the data directory, reads the file and adds the defaults. -/
theorem exec_openStore_none (h : w.store = none) :
    exec openStore w =
      match exec dataDirectory w with
      | (.error e, v) => (.error e, v)
      | (.ok dir, v) =>
        exec ensureDefaults { v with store := some ⟨dir.child Store.filename,
          Store.valuesOf (contentOf v.disk (dir.child Store.filename))⟩ } := by
  rw [openStore, exec_bind, exec_get]
  dsimp only
  rw [h]
  dsimp only [Option.isNone]
  rw [if_pos rfl, exec_bind]
  rcases exec dataDirectory w with ⟨result, v⟩
  cases result with
  | error e => rfl
  | ok dir =>
    dsimp only
    rw [exec_bind, exec_readFile]
    rfl

end Action

end FormulaOcr
