import FormulaOcr.Proofs.Disk.Likeness
import FormulaOcr.Proofs.Session.Reachable

/-! Two services side by side. They may be configured for different languages, keep different
translators, and have stores that differ in credentials. Whatever the frames are, they stay side by
side as far as their files, their calls and their stores go. -/

namespace FormulaOcr

open FormulaOcr.Action FormulaOcr.Localization

/-- What two stores, and the files that they are kept in, may differ in: credentials. What is stored
on both sides has a property of its own. -/
structure StoreLikeness (L : Likeness) where
  values : Dictionary Json → Dictionary Json → Prop
  file : Bytes → Bytes → Prop
  storable : Json → Prop
  read : ∀ {b b'}, b = b' ∨ file b b' →
    values (Store.valuesOf (Json.inBytes b)) (Store.valuesOf (Json.inBytes b'))
  nothing : values [] []
  written : ∀ {d d'}, values d d' →
    file (Encoding.Utf8.encode (Store.fileText d)) (Encoding.Utf8.encode (Store.fileText d'))
  assign : ∀ {d d'} name {j}, values d d' → storable j → values (d.assign name j) (d'.assign name j)
  defaults : ∀ {d d'}, values d d' →
    Store.missing d = Store.missing d' ∧
      values (d.merge (Store.missing d)) (d'.merge (Store.missing d'))
  credential : ∀ {d d'} (p : Provider) (path path' : Path), values d d' →
    L.credential p (Store.text ⟨path, d⟩ p.credentialName)
      (Store.text ⟨path', d'⟩ p.credentialName)
  other : ∀ {d d'} {name : String}, values d d' → name ∈ [Store.modelName, Store.vouchersName] →
    Dictionary.find? d name = Dictionary.find? d' name

/-- Two stores in the same place. -/
def Store.Like {L : Likeness} (S : StoreLikeness L) (s s' : Store) : Prop :=
  s.path = s'.path ∧ S.values s.values s'.values

/-- Two services side by side, with translators of which something is known. -/
structure Abreast {L : Likeness} (S : StoreLikeness L)
    (T : List (String × Translator) → List (String × Translator) → Prop) (w v : World) : Prop where
  configuration : w.configuration.Akin v.configuration
  disk : w.disk.Like Store.filename S.file v.disk
  today : w.today = v.today
  network : w.network = v.network
  browser : w.browser = v.browser
  calls : List.Forall₂ (Call.Like L) w.calls v.calls
  opened : w.opened = v.opened
  store : Option.Rel (Store.Like S) w.store v.store
  counterPath : w.counterPath = v.counterPath
  translators : T w.translators v.translators
  chosen : w.Chosen

namespace Abreast

variable {L : Likeness} {S : StoreLikeness L}
  {T : List (String × Translator) → List (String × Translator) → Prop} {w v : World}

theorem moved (h : Abreast S T w v) {d d' : Disk} (hd : d.Like Store.filename S.file d') :
    Abreast S T { w with disk := d } { v with disk := d' } :=
  ⟨h.configuration, hd, h.today, h.network, h.browser, h.calls, h.opened, h.store, h.counterPath,
    h.translators, h.chosen.store, h.chosen.counters⟩

/-- Both sides have spoken. -/
theorem spoken (h : Abreast S T w v) (ht : T w.spoken.translators v.spoken.translators) :
    Abreast S T w.spoken v.spoken := by
  obtain ⟨kept, hw⟩ := World.spoken_eq w
  obtain ⟨kept', hv⟩ := World.spoken_eq v
  rw [hw, hv] at ht ⊢
  exact ⟨h.configuration, h.disk, h.today, h.network, h.browser, h.calls, h.opened, h.store,
    h.counterPath, ht, h.chosen.store, h.chosen.counters⟩

theorem dataDirectory : Agrees (Abreast S T) dataDirectory := by
  intro w v h
  rw [exec_dataDirectory, exec_dataDirectory, h.configuration.dataPath]
  cases v.configuration.dataPath with
  | error c => exact ⟨rfl, h⟩
  | ok dir =>
    obtain ⟨hresult, hdisk⟩ := h.disk.makeDirectories dir
    exact ⟨by dsimp only; rw [hresult], h.moved hdisk⟩

theorem counterPath_agrees : Agrees (Abreast S T) Action.counterPath := by
  intro w v h
  cases hpath : w.counterPath with
  | some p =>
    rw [Action.exec_counterPath hpath, Action.exec_counterPath (h.counterPath ▸ hpath)]
    exact ⟨rfl, h⟩
  | none =>
    rw [exec_counterPath_none hpath, exec_counterPath_none (h.counterPath ▸ hpath)]
    rcases dataDirectory.ends h with ⟨dir, w', v', hw, hv, hleft⟩ | ⟨e, w', v', hw, hv, hleft⟩
    · rw [hw, hv]
      refine ⟨rfl, hleft.configuration, hleft.disk, hleft.today, hleft.network, hleft.browser,
        hleft.calls, hleft.opened, hleft.store, rfl, hleft.translators, hleft.chosen.store, ?_⟩
      exact fun p hp => ⟨dir, (Option.some.inj hp).symm⟩
    · rw [hw, hv]
      exact ⟨rfl, hleft⟩

/-- The file of the counters holds the same on both sides. -/
theorem counters_eq (h : Abreast S T w v) {p : Path} (hp : w.counterPath = some p) :
    contentOf w.disk p = contentOf v.disk p := by
  obtain ⟨dir, rfl⟩ := h.chosen.counters p hp
  have hread : w.disk.read (dir.child Usage.filename) = v.disk.read (dir.child Usage.filename) := by
    rw [child_usageFilename]
    exact h.disk.read_other (by decide) (by decide)
  rw [contentOf_eq, contentOf_eq, hread]

theorem loadUsage : Agrees (Abreast S T) loadUsage := by
  intro w v h
  rw [Action.loadUsage, exec_bind, exec_bind]
  rcases counterPath_agrees.ends h with ⟨p, w', v', hw, hv, hleft⟩ | ⟨e, w', v', hw, hv, hleft⟩
  · rw [hw, hv]
    dsimp only
    rw [exec_bind, exec_bind, exec_readFile, exec_readFile, hleft.counters_eq (counterPath_ok hw)]
    exact ⟨rfl, hleft⟩
  · rw [hw, hv]
    exact ⟨rfl, hleft⟩

/-- What is written to a file is the same on both sides, or goes to the store. -/
theorem writeFile (h : Abreast S T w v) {p : Path} {text text' : List Char}
    (htext : text = text' ∨ S.file (Encoding.Utf8.encode text) (Encoding.Utf8.encode text') ∧
      ∃ dir : Path, p = dir.child Store.filename) :
    (exec (writeFile p text) w).1 = (exec (writeFile p text') v).1 ∧
      Abreast S T (exec (writeFile p text) w).2 (exec (writeFile p text') v).2 := by
  obtain ⟨hresult, hdisk⟩ := h.disk.makeDirectories (parent p)
  rw [exec_writeFile, exec_writeFile]
  generalize w.disk.makeDirectories (parent p) = done at hresult hdisk ⊢
  generalize v.disk.makeDirectories (parent p) = done' at hresult hdisk ⊢
  obtain ⟨result, d⟩ := done
  obtain ⟨result', d'⟩ := done'
  obtain rfl : result = result' := hresult
  cases result with
  | error f => exact ⟨rfl, h.moved hdisk⟩
  | ok u =>
    dsimp only
    have hcontent : Encoding.Utf8.encode text = Encoding.Utf8.encode text' ∨
        S.file (Encoding.Utf8.encode text) (Encoding.Utf8.encode text') ∧
          ∀ place, d.locate p = .ok place → place.getLast? = some Store.filename := by
      rcases htext with rfl | ⟨hlike, dir, rfl⟩
      · exact .inl rfl
      · exact .inr ⟨hlike, fun place hplace => Disk.getLast_of_locate (by decide) hplace⟩
    rcases Disk.Like.write hdisk hcontent with ⟨f, hd, hd'⟩ | ⟨e, e', hd, hd', hwritten⟩
    · rw [hd, hd']
      exact ⟨rfl, h.moved hdisk⟩
    · rw [hd, hd']
      exact ⟨rfl, h.moved hwritten⟩

theorem countRecognition (id : String) : Agrees (Abreast S T) (countRecognition id) := by
  intro w v h
  rw [exec_countRecognition_eq, exec_countRecognition_eq]
  rcases counterPath_agrees.ends h with ⟨p, w', v', hw, hv, hleft⟩ | ⟨e, w', v', hw, hv, hleft⟩
  · rw [hw, hv]
    dsimp only
    rw [Usage.inFile, Usage.inFile, hleft.counters_eq (counterPath_ok hw), hleft.today]
    exact hleft.writeFile (.inl rfl)
  · rw [hw, hv]
    exact ⟨rfl, hleft⟩

/-- A call takes the same outcome on both sides. -/
theorem exchange {c c' : Call} (hc : c.Like L c') :
    Couples L (Abreast S T) Eq (exchange c) (exchange c') := by
  intro w v h
  rw [exec_exchange, exec_exchange, ← h.network]
  refine ⟨?_, h.configuration, h.disk, h.today, rfl, h.browser,
    List.rel_append h.calls (.cons hc .nil), h.opened, h.store, h.counterPath, h.translators,
    h.chosen.store, h.chosen.counters⟩
  cases givenBack (taken w.network).1 with
  | ok result => exact .ok rfl
  | error e => exact .error (Fault.Like.refl e)

/-! The store. -/

/-- Two services side by side that both have their store open. -/
def Open (S : StoreLikeness L)
    (T : List (String × Translator) → List (String × Translator) → Prop) (w v : World) : Prop :=
  Abreast S T w v ∧ w.store.isSome = true

theorem stores (h : Open S T w v) :
    ∃ s s', w.store = some s ∧ v.store = some s' ∧ s.Like S s' := by
  obtain ⟨h, hopen⟩ := h
  have hstore := h.store
  obtain ⟨s, hs⟩ := Option.isSome_iff_exists.1 hopen
  rw [hs] at hstore
  generalize hs' : v.store = there at hstore
  cases hstore with
  | some hlike => exact ⟨s, _, hs, rfl, hlike⟩

theorem saveStore (h : Abreast S T w v) {dir : Path} {d d' : Dictionary Json}
    (hvalues : S.values d d') :
    (exec (saveStore ⟨dir.child Store.filename, d⟩) w).1 =
        (exec (saveStore ⟨dir.child Store.filename, d'⟩) v).1 ∧
      Open S T (exec (saveStore ⟨dir.child Store.filename, d⟩) w).2
        (exec (saveStore ⟨dir.child Store.filename, d'⟩) v).2 := by
  have htaken : Abreast S T { w with store := some ⟨dir.child Store.filename, d⟩ }
      { v with store := some ⟨dir.child Store.filename, d'⟩ } := by
    refine ⟨h.configuration, h.disk, h.today, h.network, h.browser, h.calls, h.opened,
      .some ⟨rfl, hvalues⟩, h.counterPath, h.translators, ?_, h.chosen.counters⟩
    exact fun s hs => ⟨dir, by rw [← Option.some.inj hs]⟩
  obtain ⟨hresult, hleft⟩ := htaken.writeFile (p := dir.child Store.filename)
    (.inr ⟨S.written hvalues, dir, rfl⟩)
  rw [exec_saveStore, exec_saveStore]
  refine ⟨hresult, hleft, ?_⟩
  obtain ⟨e, he⟩ := exec_writeFile_snd (dir.child Store.filename) (Store.fileText d)
    { w with store := some ⟨dir.child Store.filename, d⟩ }
  rw [he]
  rfl

theorem setStored (name : String) {j : Json} (hj : S.storable j) :
    Agrees (Open S T) (setStored name j) := by
  intro w v h
  obtain ⟨s, s', hs, hs', hpath, hvalues⟩ := stores h
  obtain ⟨dir, hdir⟩ := h.1.chosen.store s hs
  rw [exec_setStored hs, exec_setStored hs', ← hpath, hdir]
  exact h.1.saveStore (S.assign name hvalues hj)

/-- Both sides load their store from the same place. -/
theorem loaded (h : Abreast S T w v) (dir : Path) :
    Open S T
      { w with store := some ⟨dir.child Store.filename,
          Store.valuesOf (contentOf w.disk (dir.child Store.filename))⟩ }
      { v with store := some ⟨dir.child Store.filename,
          Store.valuesOf (contentOf v.disk (dir.child Store.filename))⟩ } := by
  have hvalues : S.values (Store.valuesOf (contentOf w.disk (dir.child Store.filename)))
      (Store.valuesOf (contentOf v.disk (dir.child Store.filename))) := by
    rw [contentOf_eq, contentOf_eq]
    rcases h.disk.read (dir.child Store.filename) with hsame | ⟨b, b', -, hb, hb', hfile, -⟩
    · rw [hsame]
      cases v.disk.read (dir.child Store.filename) with
      | error f => exact S.nothing
      | ok b => exact S.read (.inl rfl)
    · rw [hb, hb']
      exact S.read (.inr hfile)
  refine ⟨⟨h.configuration, h.disk, h.today, h.network, h.browser, h.calls, h.opened,
    .some ⟨rfl, hvalues⟩, h.counterPath, h.translators, ?_, h.chosen.counters⟩, rfl⟩
  exact fun s hs => ⟨dir, by rw [← Option.some.inj hs]⟩

theorem ensureDefaults : Agrees (Open S T) ensureDefaults := by
  intro w v h
  obtain ⟨s, s', hs, hs', hpath, hvalues⟩ := stores h
  obtain ⟨dir, hdir⟩ := h.1.chosen.store s hs
  obtain ⟨hmissing, hmerged⟩ := S.defaults hvalues
  rw [exec_ensureDefaults hs, exec_ensureDefaults hs', ← hmissing, ← hpath, hdir]
  split_ifs
  · exact ⟨rfl, h⟩
  · rw [← hmissing] at hmerged
    exact h.1.saveStore hmerged

theorem opens : Opens (Abreast S T) (Open S T) where
  within w v h := h.1
  opens w v h := by
    cases hs : w.store with
    | some s =>
      obtain ⟨s', hs'⟩ : ∃ s', v.store = some s' := by
        obtain ⟨_, s', -, hs', -⟩ := stores ⟨h, by rw [hs]; rfl⟩
        exact ⟨s', hs'⟩
      rw [exec_openStore_some hs, exec_openStore_some hs']
      exact ⟨rfl, h, fun _ => ⟨h, by rw [hs]; rfl⟩⟩
    | none =>
      have hs' : v.store = none := by
        have hstore := h.store
        rw [hs] at hstore
        generalize v.store = there at hstore ⊢
        cases hstore
        rfl
      rw [exec_openStore_none hs, exec_openStore_none hs']
      rcases dataDirectory.ends h with ⟨dir, w', v', hw, hv, hleft⟩ | ⟨e, w', v', hw, hv, hleft⟩
      · rw [hw, hv]
        dsimp only
        obtain ⟨hresult, hkept⟩ := ensureDefaults _ _ (hleft.loaded dir)
        exact ⟨hresult, hkept.1, fun _ => hkept⟩
      · rw [hw, hv]
        exact ⟨rfl, hleft, fun hok => nomatch hok⟩

end Abreast

/-! What is left is how messages are put into words. -/

/-- Messages are put into words on both sides, a name in the label of a result into those of its
own side. -/
structure Worded (L : Likeness) (R : World → World → Prop) : Prop where
  wording : ∀ {key values}, Message key (Dictionary.keys values) →
    Couples L R L.words (Action.wording key values) (Action.wording key values)
  label : ∀ {name name'}, L.words name name' →
    Couples L R L.words
      (Action.wording "recognition.simpletex_label" [("name", .str name)])
      (Action.wording "recognition.simpletex_label" [("name", .str name')])

namespace Parallel

variable {L : Likeness} {R : World → World → Prop} {P P' : World → Prop}

/-- Steps that are coupled, and keep a property on each side, are coupled where these hold. -/
theorem paired (h : Parallel L R) (hP : Basics (Only P)) (hP' : Basics (Only P')) :
    Parallel L (Paired R P P') where
  configuration _ _ hR := h.configuration _ _ hR.1
  address _ _ hR := h.address _ _ hR.1
  today _ _ hR := h.today _ _ hR.1
  browser _ _ hR := h.browser _ _ hR.1
  wording hm := (h.wording hm).paired (hP.wording _ _) (hP'.wording _ _)
  label hname := (h.label hname).paired (hP.wording _ _) (hP'.wording _ _)
  exchange hc := (h.exchange hc).paired (hP.exchange _) (hP'.exchange _)
  opened url w v hR := ⟨h.opened url w v hR.1, (hP.opened url w w ⟨rfl, hR.2.1⟩).2,
    (hP'.opened url v v ⟨rfl, hR.2.2⟩).2⟩
  counterPath := h.counterPath.paired hP.counterPath hP'.counterPath
  loadUsage := h.loadUsage.paired hP.loadUsage hP'.loadUsage

end Parallel

namespace Abreast

variable {L : Likeness} {S : StoreLikeness L}
  {T : List (String × Translator) → List (String × Translator) → Prop} {P P' : World → Prop}

theorem parallel (hwords : Worded L (Paired (Abreast S T) P P')) (hP : Basics (Only P))
    (hP' : Basics (Only P'))
    (haddress : ∀ w v, Paired (Abreast S T) P P' w v →
      ∀ (p : Provider) path, L.address p (p.url v.configuration path)) :
    Parallel L (Paired (Abreast S T) P P') where
  configuration _ _ hR := hR.1.configuration
  address := haddress
  today _ _ hR := hR.1.today
  browser _ _ hR := hR.1.browser
  wording := hwords.wording
  label := hwords.label
  exchange hc := (exchange hc).paired (hP.exchange _) (hP'.exchange _)
  opened url w v := by
    rintro ⟨h, hw, hv⟩
    refine ⟨⟨h.configuration, h.disk, h.today, h.network, h.browser, h.calls, ?_, h.store,
      h.counterPath, h.translators, h.chosen.store, h.chosen.counters⟩,
      (hP.opened url w w ⟨rfl, hw⟩).2, (hP'.opened url v v ⟨rfl, hv⟩).2⟩
    exact congrArg (· ++ [url]) h.opened
  counterPath := counterPath_agrees.paired hP.counterPath hP'.counterPath
  loadUsage := loadUsage.paired hP.loadUsage hP'.loadUsage

/-- With the store open on one side, it is open on both. -/
theorem open_eq :
    Paired (Open S T) (WithStore P) (WithStore P') =
      Paired (Paired (Abreast S T) P P') (·.store.isSome = true) (·.store.isSome = true) := by
  funext w v
  apply propext
  constructor
  · rintro ⟨⟨h, -⟩, ⟨hw, hopen⟩, ⟨hv, hopen'⟩⟩
    exact ⟨⟨h, hw, hv⟩, hopen, hopen'⟩
  · rintro ⟨⟨h, hw, hv⟩, hopen, hopen'⟩
    exact ⟨⟨h, hopen⟩, ⟨hw, hopen⟩, ⟨hv, hopen'⟩⟩

theorem basics_open : Basics (Only fun w => w.store.isSome = true) :=
  basics_of_store fun w v hstore hw => by rwa [hstore]

variable (hwords : Worded L (Paired (Abreast S T) P P'))
  (hP : Serves (Only P) (Only (WithStore P)) fun _ => True)
  (hP' : Serves (Only P') (Only (WithStore P')) fun _ => True)
  (haddress : ∀ w v, Paired (Abreast S T) P P' w v →
    ∀ (p : Provider) path, L.address p (p.url v.configuration path))
include hwords hP hP' haddress

theorem parallelStores :
    ParallelStores L (Paired (Open S T) (WithStore P) (WithStore P')) S.storable where
  toParallel := open_eq ▸
    (parallel hwords hP.basics hP'.basics haddress).paired basics_open basics_open
  credential p := by
    intro w v hR
    obtain ⟨s, s', hs, hs', -, hvalues⟩ := stores hR.1
    rw [exec_storedText hs, exec_storedText hs']
    exact ⟨.ok (S.credential p s.path s'.path hvalues), hR⟩
  storedModel := by
    intro w v hR
    obtain ⟨s, s', hs, hs', -, hvalues⟩ := stores hR.1
    have hsame : s.get? Store.modelName = s'.get? Store.modelName := S.other hvalues (by decide)
    rw [exec_storedText hs, exec_storedText hs', Store.text, Store.text, hsame]
    exact ⟨rfl, hR⟩
  storedVouchers := by
    intro w v hR
    obtain ⟨s, s', hs, hs', -, hvalues⟩ := stores hR.1
    have hsame : s.get? Store.vouchersName = s'.get? Store.vouchersName :=
      S.other hvalues (by decide)
    rw [exec_storedTexts hs, exec_storedTexts hs', Store.texts, Store.texts, hsame]
    exact ⟨rfl, hR⟩
  setStored _ hvalue := (setStored _ hvalue).paired (hP.conforms.setStored _ _ trivial)
    (hP'.conforms.setStored _ _ trivial)

/-- Two services side by side reply alike to the frames of a connection, and stay side by side. -/
theorem connection {frames : List String}
    (hcarries : ∀ frame ∈ frames, Channel.Carries S.storable (Channel.message frame)) :
    Matches (Paired (Abreast S T) P P') (List.Forall₂ (Channel.Like L))
      (Channel.connection frames) (Channel.connection frames) := by
  have hparallel := parallel hwords hP.basics hP'.basics haddress
  have hstores := parallelStores hwords hP hP' haddress
  have hcount (id : String) :
      Agrees (Paired (Open S T) (WithStore P) (WithStore P')) (Action.countRecognition id) := by
    -- counting needs no open store, and leaves it open if it is
    have hclosed := (countRecognition (S := S) (T := T) id).paired (hP.count id) (hP'.count id)
    have hopen : Agrees (Only fun w => w.store.isSome = true) (Action.countRecognition id) :=
      agrees_only.2 fun w hw => by rwa [store_countRecognition]
    exact open_eq ▸ hclosed.paired hopen hopen
  apply Couples.connection
  intro frame hmem
  apply hparallel.dispatch (opens.paired hP.opens hP'.opens) hstores.toParallel
  intro c hc
  exact hstores.run (hcarries frame hmem c hc) fun image mode modelId _ =>
    hstores.runRecognize hcount image mode modelId

end Abreast

end FormulaOcr
