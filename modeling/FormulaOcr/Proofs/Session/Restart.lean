import FormulaOcr.Proofs.Localization.Shipped
import FormulaOcr.Proofs.Session.Kept

/-! Restarts. Two processes that went through the same, of which one was restarted on the way, do
the same from then on: one has in memory what the other finds in its files. -/

namespace FormulaOcr

open FormulaOcr.Action FormulaOcr.Localization Session

namespace World.Kept

variable {w v : World} {dir : Path}

theorem translator_eq (h : w.Kept) : w.translator =
    Translator.load w.disk directory w.configuration.language "en" .null := by
  unfold World.translator
  cases hlookup : w.translators.lookup w.configuration.language with
  | none => rfl
  | some t => exact (h.translator t hlookup).symm

theorem spoken (h : w.Kept) : w.spoken.Kept := by
  have htranslator : ∀ t, w.spoken.translators.lookup w.configuration.language = some t →
      Translator.load w.disk directory w.configuration.language "en" .null = .ok t := by
    intro t ht
    unfold World.spoken at ht
    split at ht
    · next t' hlookup ht' =>
      dsimp only at ht
      rw [lookup_append_self _ hlookup] at ht
      obtain rfl := Option.some.inj ht
      exact h.translator_eq.symm.trans ht'
    · exact h.translator t ht
  obtain ⟨kept, hspoken⟩ := World.spoken_eq w
  rw [hspoken] at htranslator ⊢
  exact ⟨h.store, h.counters, htranslator, h.english, h.language, h.ready⟩

/-- What a process keeps does not depend on the date, the network or the browser. -/
theorem meanwhile (h : w.Kept) (today : String) (network : List Outcome) (browser : Bool)
    (calls : List Call) (opened : List String) :
    World.Kept { w with today, network, browser, calls, opened } :=
  ⟨h.store, h.counters, h.translator, h.english, h.language, h.ready⟩

/-- Counters that were chosen are chosen again. -/
theorem exec_counterPath (h : w.Kept) :
    exec Action.counterPath w =
      match exec dataDirectory w with
      | (.error e, v) => (.error e, v)
      | (.ok dir, v) =>
        (.ok (dir.child Usage.filename),
          { v with counterPath := some (dir.child Usage.filename) }) := by
  cases hpath : w.counterPath with
  | none => exact exec_counterPath_none hpath
  | some p =>
    obtain ⟨dir, hdata, hdir, rfl⟩ := h.counters p hpath
    rw [Action.exec_counterPath hpath, exec_dataDirectory_there hdata hdir]
    dsimp only
    rw [← hpath]

/-- A store that is open is opened again. -/
theorem exec_openStore (h : w.Kept) :
    exec openStore w =
      match exec dataDirectory w with
      | (.error e, v) => (.error e, v)
      | (.ok dir, v) => exec ensureDefaults
        { v with store := some ⟨dir.child Store.filename, valuesIn v.disk dir⟩ } := by
  cases hstore : w.store with
  | none => exact exec_openStore_none hstore
  | some s =>
    obtain ⟨dir, hdata, hdir, rfl, hmissing⟩ := h.store s hstore
    rw [exec_openStore_some hstore, exec_dataDirectory_there hdata hdir]
    dsimp only
    rw [exec_ensureDefaults rfl, hmissing, ← hstore]
    rfl

end World.Kept

/-- Two processes of the same history, whatever each of them keeps in memory. -/
structure Twins (w v : World) : Prop where
  same : ∃ store path translators, v = { w with store, counterPath := path, translators }
  left : w.Kept
  right : v.Kept

/-- Two processes that both have the store open. -/
def OpenTwins (w v : World) : Prop :=
  Twins w v ∧ w.store = v.store ∧ w.store.isSome = true

namespace Twins

variable {w v : World}

theorem configuration (h : Twins w v) : v.configuration = w.configuration := by
  obtain ⟨store, path, translators, rfl⟩ := h.same
  rfl

theorem disk (h : Twins w v) : v.disk = w.disk := by
  obtain ⟨store, path, translators, rfl⟩ := h.same
  rfl

theorem today (h : Twins w v) : v.today = w.today := by
  obtain ⟨store, path, translators, rfl⟩ := h.same
  rfl

theorem calls (h : Twins w v) : v.calls = w.calls := by
  obtain ⟨store, path, translators, rfl⟩ := h.same
  rfl

theorem opened (h : Twins w v) : v.opened = w.opened := by
  obtain ⟨store, path, translators, rfl⟩ := h.same
  rfl

/-- The date, the network and the browser can become others for both. -/
theorem meanwhile (h : Twins w v) (today : String) (network : List Outcome) (browser : Bool)
    (calls : List Call) (opened : List String) :
    Twins { w with today, network, browser, calls, opened }
      { v with today, network, browser, calls, opened } := by
  obtain ⟨⟨store, path, translators, rfl⟩, hl, hr⟩ := h
  exact ⟨⟨store, path, translators, rfl⟩, hl.meanwhile today network browser calls opened,
    hr.meanwhile today network browser calls opened⟩

/-- Both make the data directory. -/
theorem dataDirectory (h : Twins w v) :
    ∃ result d, exec dataDirectory w = (result, { w with disk := d }) ∧
      exec dataDirectory v = (result, { v with disk := d }) ∧
      Twins { w with disk := d } { v with disk := d } ∧
      ∀ dir, result = .ok dir → w.configuration.dataPath = .ok dir ∧ Furnished d dir := by
  obtain ⟨⟨store, path, translators, rfl⟩, hl, hr⟩ := h
  rw [exec_dataDirectory, exec_dataDirectory]
  dsimp only
  cases hdata : w.configuration.dataPath with
  | error c =>
    exact ⟨_, w.disk, rfl, rfl, ⟨⟨store, path, translators, rfl⟩, hl, hr⟩, fun dir h => nomatch h⟩
  | ok dir =>
    refine ⟨_, _, rfl, rfl, ⟨⟨store, path, translators, rfl⟩, hl.made hdata, hr.made hdata⟩,
      fun dir' hresult => ?_⟩
    have hready := hl.ready dir (w.disk.makeDirectories dir).2 hdata
    generalize w.disk.makeDirectories dir = done at hresult hready ⊢
    obtain ⟨made, d⟩ := done
    cases made with
    | error f => exact nomatch hresult
    | ok _ =>
      obtain rfl := Except.ok.inj hresult
      exact ⟨rfl, hready rfl⟩

/-- Both choose the same counters, in a furnished directory. -/
theorem counterPath (h : Twins w v) :
    (exec counterPath w).1 = (exec counterPath v).1 ∧
      Twins (exec counterPath w).2 (exec counterPath v).2 ∧
      ∀ p, (exec counterPath w).1 = .ok p → ∃ dir, p = dir.child Usage.filename ∧
        (exec counterPath w).2.configuration.dataPath = .ok dir ∧
        Furnished (exec counterPath w).2.disk dir := by
  obtain ⟨result, d, hw, hv, htwins, hdata⟩ := h.dataDirectory
  rw [h.left.exec_counterPath, h.right.exec_counterPath, hw, hv]
  cases result with
  | error e => exact ⟨rfl, htwins, fun p hp => nomatch hp⟩
  | ok dir =>
    obtain ⟨hdir, hfurnished⟩ := hdata dir rfl
    have hconfiguration := h.configuration
    obtain ⟨⟨store, path, translators, hsame⟩, hl, hr⟩ := htwins
    refine ⟨rfl, ⟨⟨store, some (dir.child Usage.filename), translators, ?_⟩, ?_, ?_⟩,
      fun p hp => ⟨dir, (Except.ok.inj hp).symm, hdir, hfurnished⟩⟩
    · exact congrArg (fun u : World =>
        { u with counterPath := some (dir.child Usage.filename) }) hsame
    · refine ⟨hl.store, fun p hp => ?_, hl.translator, hl.english, hl.language, hl.ready⟩
      exact ⟨dir, hdir, hfurnished.directory, (Option.some.inj hp).symm⟩
    · refine ⟨hr.store, fun p hp => ?_, hr.translator, hr.english, hr.language, hr.ready⟩
      exact ⟨dir, hconfiguration ▸ hdir, hfurnished.directory, (Option.some.inj hp).symm⟩

/-- Both write the counters, or neither. -/
theorem writeCounters (h : Twins w v) {dir : Path} (hdata : w.configuration.dataPath = .ok dir)
    (hf : Furnished w.disk dir) (text : List Char) :
    (exec (writeFile (dir.child Usage.filename) text) w).1 =
        (exec (writeFile (dir.child Usage.filename) text) v).1 ∧
      Twins (exec (writeFile (dir.child Usage.filename) text) w).2
        (exec (writeFile (dir.child Usage.filename) text) v).2 := by
  obtain ⟨⟨store, path, translators, rfl⟩, hl, hr⟩ := h
  rw [exec_writeFile, exec_writeFile, parent_usageFilename]
  dsimp only
  rw [Disk.makeDirectories_of_isDirectory hf.directory]
  dsimp only
  cases hwrite : w.disk.write (dir.child Usage.filename) (Encoding.Utf8.encode text) with
  | error f => exact ⟨rfl, ⟨store, path, translators, rfl⟩, hl, hr⟩
  | ok d =>
    have htouches : w.disk.Touches [Usage.filename] d := Disk.write_touches (by decide) hwrite
    have hready : Ready w.configuration d := (hf.counted hwrite).ready hdata
    exact ⟨rfl, ⟨store, path, translators, rfl⟩, hl.moved htouches hready,
      hr.moved htouches hready⟩

theorem countRecognition (h : Twins w v) (id : String) :
    (exec (countRecognition id) w).1 = (exec (countRecognition id) v).1 ∧
      Twins (exec (countRecognition id) w).2 (exec (countRecognition id) v).2 := by
  obtain ⟨hresult, htwins, hfurnished⟩ := h.counterPath
  rw [exec_countRecognition_eq, exec_countRecognition_eq]
  generalize exec Action.counterPath w = left at hresult htwins hfurnished ⊢
  generalize exec Action.counterPath v = right at hresult htwins ⊢
  obtain ⟨result, w'⟩ := left
  obtain ⟨result', v'⟩ := right
  obtain rfl : result = result' := hresult
  cases result with
  | error e => exact ⟨rfl, htwins⟩
  | ok p =>
    obtain ⟨dir, rfl, hdata, hf⟩ := hfurnished p rfl
    have hdisk : v'.disk = w'.disk := htwins.disk
    have htoday : v'.today = w'.today := htwins.today
    dsimp only
    rw [hdisk, htoday]
    exact htwins.writeCounters hdata hf _

theorem basics : Basics Twins where
  configuration w v h := h.configuration.symm
  today w v h := h.today.symm
  browser w v h := by
    obtain ⟨⟨store, path, translators, rfl⟩, -, -⟩ := h
    rfl
  translator w v h := by
    obtain ⟨⟨store, path, translators, rfl⟩, hl, hr⟩ := h
    rw [exec_translator, exec_translator, hl.translator_eq, hr.translator_eq]
    refine ⟨rfl, ?_, hl.spoken, hr.spoken⟩
    obtain ⟨kept, hw⟩ := World.spoken_eq w
    obtain ⟨kept', hv⟩ := World.spoken_eq { w with store, counterPath := path, translators }
    exact ⟨store, path, kept', by rw [hv, hw]⟩
  exchange call w v h := by
    have hlater := h.meanwhile w.today (taken w.network).2 w.browser (w.calls ++ [call]) w.opened
    obtain ⟨store, path, translators, rfl⟩ := h.same
    rw [exec_exchange, exec_exchange]
    exact ⟨rfl, hlater⟩
  opened url w v h := by
    have hlater := h.meanwhile w.today w.network w.browser w.calls (w.opened ++ [url])
    obtain ⟨store, path, translators, rfl⟩ := h.same
    exact hlater
  counterPath w v h := ⟨h.counterPath.1, h.counterPath.2.1⟩
  loadUsage := by
    have hread (p : Path) : Agrees Twins (readFile p) := by
      intro w v h
      rw [exec_readFile, exec_readFile, h.disk]
      exact ⟨rfl, h⟩
    have hpath : Agrees Twins Action.counterPath :=
      fun w v h => ⟨h.counterPath.1, h.counterPath.2.1⟩
    exact hpath.bind fun p => (hread p).bind fun content => Agrees.pure _

/-- Both save the same store, and have it open. -/
theorem saveStore (h : Twins w v) {dir : Path} (hdata : w.configuration.dataPath = .ok dir)
    (hf : Furnished w.disk dir) {values : Dictionary Json} (hsound : (Json.obj values).Sound)
    (hmissing : Store.missing values = []) :
    (exec (saveStore ⟨dir.child Store.filename, values⟩) w).1 =
        (exec (saveStore ⟨dir.child Store.filename, values⟩) v).1 ∧
      OpenTwins (exec (saveStore ⟨dir.child Store.filename, values⟩) w).2
        (exec (saveStore ⟨dir.child Store.filename, values⟩) v).2 := by
  obtain ⟨⟨store, path, translators, rfl⟩, hl, hr⟩ := h
  obtain ⟨d, hwrite⟩ := hf.writable.write (Encoding.Utf8.encode (Store.fileText values))
  rw [exec_saveStore, exec_saveStore, exec_writeFile, exec_writeFile]
  dsimp only
  rw [parent_storeFilename, Disk.makeDirectories_of_isDirectory hf.directory]
  dsimp only
  rw [hwrite]
  exact ⟨rfl, ⟨⟨_, path, translators, rfl⟩, hl.saved hdata hf hsound hmissing hwrite,
    hr.saved hdata hf hsound hmissing hwrite⟩, rfl, rfl⟩

/-- Both load the same store, and have it open. -/
theorem loadStore (h : Twins w v) {dir : Path} (hdata : w.configuration.dataPath = .ok dir)
    (hf : Furnished w.disk dir) (hmissing : Store.missing (valuesIn w.disk dir) = []) :
    OpenTwins { w with store := some ⟨dir.child Store.filename, valuesIn w.disk dir⟩ }
      { v with store := some ⟨dir.child Store.filename, valuesIn w.disk dir⟩ } := by
  obtain ⟨⟨store, path, translators, rfl⟩, hl, hr⟩ := h
  exact ⟨⟨⟨_, path, translators, rfl⟩, hl.opened hdata hf hmissing, hr.opened hdata hf hmissing⟩,
    rfl, rfl⟩

/-- Both open the same store. -/
theorem openStore (h : Twins w v) :
    (exec openStore w).1 = (exec openStore v).1 ∧
      Twins (exec openStore w).2 (exec openStore v).2 ∧
      ((exec openStore w).1 = .ok () → OpenTwins (exec openStore w).2 (exec openStore v).2) := by
  obtain ⟨result, d, hw, hv, htwins, hdata⟩ := h.dataDirectory
  rw [h.left.exec_openStore, h.right.exec_openStore, hw, hv]
  cases result with
  | error e => exact ⟨rfl, htwins, fun hok => nomatch hok⟩
  | ok dir =>
    obtain ⟨hdir, hf⟩ := hdata dir rfl
    dsimp only
    rw [exec_ensureDefaults rfl, exec_ensureDefaults rfl]
    split_ifs with hempty
    · have hopen := htwins.loadStore hdir hf (List.isEmpty_iff.1 hempty)
      exact ⟨rfl, hopen.1, fun _ => hopen⟩
    · have hsaved := htwins.saveStore hdir hf
        (Json.Everywhere.merge (sound_valuesOf _ _) (Store.everywhere_missing (valuesIn d dir)))
        (Store.missing_merge (valuesIn d dir))
      exact ⟨hsaved.1, hsaved.2.1, fun _ => hsaved.2⟩

/-- What leaves the store alone can be done with the store open. -/
theorem withStore {α : Type} {a : Action α} (ha : Agrees Twins a)
    (hstore : ∀ w, (exec a w).2.store = w.store) : Agrees OpenTwins a := by
  rintro w v ⟨h, hsame, hopen⟩
  obtain ⟨hresult, htwins⟩ := ha w v h
  refine ⟨hresult, htwins, ?_, ?_⟩
  · rw [hstore, hstore, hsame]
  · rw [hstore]
    exact hopen

theorem basicsOpen : Basics OpenTwins where
  configuration w v h := basics.configuration w v h.1
  today w v h := basics.today w v h.1
  browser w v h := basics.browser w v h.1
  translator := withStore basics.translator fun w => by
    obtain ⟨kept, hspoken⟩ := World.spoken_eq w
    rw [exec_translator]
    dsimp only
    rw [hspoken]
  exchange call := withStore (basics.exchange call) fun w => by rw [exec_exchange]
  opened url w v h := ⟨basics.opened url w v h.1, h.2⟩
  counterPath := withStore basics.counterPath store_counterPath
  loadUsage := withStore basics.loadUsage store_loadUsage

theorem conforms : Conforms OpenTwins Json.Sound where
  toBasics := basicsOpen
  store w v h := h.2.1
  setStored name value hv := by
    rintro w v ⟨h, hsame, hopen⟩
    obtain ⟨s, hs⟩ := Option.isSome_iff_exists.1 hopen
    obtain ⟨dir, hdata, hdir, rfl, hmissing⟩ := h.left.store s hs
    have hf := h.left.ready.furnished hdata hdir
    rw [exec_setStored hs, exec_setStored (hsame ▸ hs)]
    exact h.saveStore hdata hf (Json.Everywhere.assign (sound_valuesOf _ _) name hv)
      (Store.missing_assign hmissing name value)
  ensureDefaults := by
    rintro w v ⟨h, hsame, hopen⟩
    obtain ⟨s, hs⟩ := Option.isSome_iff_exists.1 hopen
    obtain ⟨dir, hdata, hdir, heq, hmissing⟩ := h.left.store s hs
    rw [exec_ensureDefaults hs, exec_ensureDefaults (hsame ▸ hs), hmissing]
    exact ⟨rfl, h, hsame, hopen⟩

/-- A service does the same in both processes. -/
theorem serves : Serves Twins OpenTwins Json.Sound where
  basics := basics
  opens := ⟨fun w v h => h.1, fun w v h => h.openStore⟩
  conforms := conforms
  count id w v h := h.countRecognition id
  countOpen id := withStore (fun w v h => h.countRecognition id) (store_countRecognition id)
  clock today w v h := by
    have hlater := h.meanwhile today w.network w.browser w.calls w.opened
    obtain ⟨store, path, translators, rfl⟩ := h.same
    exact hlater

end Twins

namespace Session

/-- What a session may consist of while nobody else touches its files: numbers that it stores are
read back, and no object that it stores names a member twice. -/
def Event.Admitted : Event → Prop
  | .connection frames => ∀ frame ∈ frames, (Channel.message frame).NumbersReadBack
  | .store (.set _ value) => value.Sound
  | .put .. | .remove .. | .configure .. | .restart => False
  | _ => True

theorem carries_message {frame : String} (h : (Channel.message frame).NumbersReadBack) :
    Channel.Carries Json.Sound (Channel.message frame) :=
  Channel.carries_everywhere List.nodup_nil ((Channel.distinct_message frame).sound h)

theorem Event.Admitted.served {e : Event} (h : e.Admitted) : e.Served Json.Sound := by
  cases e with
  | connection frames => exact fun frame hframe => carries_message (h frame hframe)
  | store q => cases q <;> exact h
  | put | remove | configure | restart => exact h
  | _ => trivial

/-- A turn of a session: whether the process is restarted first, what the network and the browser
hold ready, and what happens. -/
structure Turn where
  restart : Bool
  network : List Outcome
  browser : Bool
  event : Event

/-- What is seen of a turn from outside: its answer, the calls, the links opened, and the files. -/
structure Seen where
  answer : Except Fault Answer
  calls : List Call
  opened : List String
  disk : Disk

namespace Turn

/-- The world in which the event of a turn happens. -/
def prepare (s : Turn) (w : World) : World :=
  let w := if s.restart then restarted w else w
  { w with network := s.network, browser := s.browser, calls := [], opened := [] }

def perform (s : Turn) (w : World) : Seen × World :=
  let done := exec (run s.event) (s.prepare w)
  (⟨done.1, done.2.calls, done.2.opened, done.2.disk⟩, done.2)

/-- The turn without the restart. -/
def uninterrupted (s : Turn) : Turn :=
  { s with restart := false }

end Turn

/-- What is seen of a session. -/
def play : World → List Turn → List Seen
  | _, [] => []
  | w, s :: turns => (s.perform w).1 :: play (s.perform w).2 turns

end Session

/-- A process that was just started keeps nothing in memory. -/
theorem kept_restarted {w : World} (henglish : Settled stateFiles w.disk "en")
    (hlanguage : Settled stateFiles w.disk w.configuration.language)
    (hready : Ready w.configuration w.disk) : (restarted w).Kept :=
  ⟨fun _ hs => (nomatch hs), fun _ hp => (nomatch hp), fun _ ht => (nomatch ht), henglish,
    hlanguage, hready⟩

namespace Twins

variable {w v : World}

/-- The one process can be restarted. -/
theorem restarted (h : Twins w v) : Twins (Session.restarted w) v := by
  obtain ⟨store, path, translators, hsame⟩ := h.same
  exact ⟨⟨store, path, translators, hsame⟩,
    kept_restarted h.left.english h.left.language h.left.ready, h.right⟩

/-- One turn, before which the one process may be restarted. -/
theorem turn (h : Twins w v) {s : Turn} (hs : s.event.Admitted) :
    (s.perform w).1 = (s.uninterrupted.perform v).1 ∧
      Twins (s.perform w).2 (s.uninterrupted.perform v).2 := by
  have hprepared : Twins (s.prepare w) (s.uninterrupted.prepare v) := by
    have hrestarted : Twins (if s.restart then Session.restarted w else w) v := by
      split_ifs
      · exact h.restarted
      · exact h
    unfold Turn.prepare
    generalize (if s.restart then Session.restarted w else w) = u at hrestarted
    have hlater := hrestarted.meanwhile u.today s.network s.browser [] []
    obtain ⟨store, path, translators, rfl⟩ := hrestarted.same
    exact hlater
  obtain ⟨hanswer, hlast⟩ :=
    serves.event (fun _ hplain => hplain.everywhere) hs.served _ _ hprepared
  refine ⟨?_, hlast⟩
  unfold Turn.perform
  dsimp only
  have hevent : s.uninterrupted.event = s.event := rfl
  rw [hevent, hanswer, hlast.calls, hlast.opened, hlast.disk]

/-- A whole session, in which the one process may be restarted before every turn. -/
theorem play (h : Twins w v) {turns : List Turn} (hturns : ∀ s ∈ turns, s.event.Admitted) :
    Session.play w turns = Session.play v (turns.map Turn.uninterrupted) := by
  induction turns generalizing w v with
  | nil => rfl
  | cons s turns ih =>
    obtain ⟨hseen, hlast⟩ := h.turn (hturns s (by simp))
    rw [List.map_cons, Session.play, Session.play, hseen,
      ih hlast fun s hs => hturns s (List.mem_cons_of_mem _ hs)]

end Twins

/-- Restarts are not seen from outside. Whenever the process is restarted between the turns of a
session, all answers, calls, links and files are as without the restarts, if the files of the store
can be written and no table of the translator is among the state files. -/
theorem play_restarts {w : World} (henglish : Settled stateFiles w.disk "en")
    (hlanguage : Settled stateFiles w.disk w.configuration.language)
    (hready : Ready w.configuration w.disk) {turns : List Turn}
    (hturns : ∀ s ∈ turns, s.event.Admitted) :
    play (restarted w) turns = play (restarted w) (turns.map Turn.uninterrupted) := by
  have hkept := kept_restarted henglish hlanguage hready
  have htwins : Twins (restarted w) (restarted w) := ⟨⟨none, none, [], rfl⟩, hkept, hkept⟩
  exact htwins.play hturns

/-- A fresh service in a language. -/
def speaking (language : String) : World :=
  fresh ⟨[("FORMULASNAP_DATA_DIR", .str "/data"), ("FORMULASNAP_LANG", .str language)], []⟩ []
    "2026-03-01" [] true

theorem ready_speaking (language : String) :
    Ready (speaking language).configuration (speaking language).disk := by
  have hdata : (speaking language).configuration.dataPath = .ok ⟨"/", ["data"]⟩ := by
    have hsetting : (speaking language).configuration.getOr "FORMULASNAP_DATA_DIR"
        "~/.formulasnap" = "/data" := rfl
    have henvironment : (speaking language).configuration.environment = [] := rfl
    rw [Configuration.dataPath, hsetting, henvironment]
    exact eq_ok_of_toOption (by decide +kernel)
  have hdisk : (speaking language).disk = install ⟨[]⟩ := rfl
  refine ready_of_made hdata ?_
  rw [hdisk]
  refine ⟨by decide +kernel, ⟨["data", "config.json"], eq_ok_of_toOption (by decide +kernel), ?_⟩,
    fun j hj => ?_⟩
  · decide +kernel
  · have hnone : (contentOf ((install ⟨[]⟩).makeDirectories ⟨"/", ["data"]⟩).2
        (Path.child ⟨"/", ["data"]⟩ Store.filename)).isNone = true := by decide +kernel
    rw [hj] at hnone
    exact nomatch hnone

/-- A session that changes what stands in the store under the key of a message. -/
def rewording : List Turn :=
  [⟨false, [], true, .connection ["[]"]⟩,
   ⟨false, [], true, .store (.set "errors.bad_message" (.str "hello"))⟩,
   ⟨true, [], true, .connection ["[]"]⟩]

theorem admitted_rewording : ∀ s ∈ rewording, s.event.Admitted := by
  have hmessage : ∀ frame ∈ ["[]"], (Channel.message frame).NumbersReadBack := by
    intro frame hframe
    obtain rfl := List.mem_singleton.1 hframe
    have hmessage : Channel.message "[]" = .null := rfl
    rw [hmessage]
    simp [Json.NumbersReadBack, Json.Everywhere]
  intro s hs
  simp only [rewording, List.mem_cons, List.not_mem_nil, or_false] at hs
  rcases hs with rfl | rfl | rfl
  · exact hmessage
  · simp [Event.Admitted, Json.Sound, Json.Everywhere]
  · exact hmessage

theorem play_rewording :
    play (restarted (speaking "en")) rewording =
      play (restarted (speaking "en")) (rewording.map Turn.uninterrupted) := by
  have hlanguage : (speaking "en").configuration.language = "en" := by decide +kernel
  have hsettled : Settled stateFiles (speaking "en").disk "en" :=
    installed_install.settled (by decide)
  exact play_restarts hsettled (hlanguage ▸ hsettled) (ready_speaking "en") admitted_rewording

/-- The errors in the replies of a turn. -/
def errorsIn (s : Seen) : List (Option String) :=
  match s.answer with
  | .ok (.replies list) => list.map fun reply => (reply.member "error").text?
  | _ => []

/-- A translator that is loaded from the store speaks differently after a restart. -/
theorem play_changed_by_restart :
    ¬ ∀ (configuration : Configuration) (nodes : List (List String × Node)) (today : String)
      (turns : List Turn),
      Ready configuration (fresh configuration nodes today [] true).disk →
      (∀ s ∈ turns, s.event.Admitted) →
      play (restarted (fresh configuration nodes today [] true)) turns =
        play (restarted (fresh configuration nodes today [] true))
          (turns.map Turn.uninterrupted) := by
  intro hclaim
  have hsame := hclaim _ _ _ rewording (ready_speaking "/data/config") admitted_rewording
  have herrors := congrArg (List.map errorsIn) hsame
  exact absurd herrors (by decide +kernel)

end FormulaOcr
