import FormulaOcr.Proofs.Recognition.Protocol
import FormulaOcr.Proofs.Session.Kept

/-! Writing the settings. What is stored is written at once, and to write a file again takes no more
than to write it the first time. Saving is followed through a command as the changes that were made
to the store and the calls that were made on the way. -/

namespace FormulaOcr

open FormulaOcr.Action FormulaOcr.Localization

/-! Files that are written again and again. -/

namespace Disk

variable {p : Path} {d d' : Disk}

/-- A file can be written at a path once its directory is made. -/
def Accepts (d : Disk) (p : Path) : Prop :=
  (d.makeDirectories (parent p)).1 = .ok () ∧ (d.makeDirectories (parent p)).2.Writable p

/-- A file was written at a path, its directory made first. -/
def Rewrites (p : Path) (d d' : Disk) : Prop :=
  (d.makeDirectories (parent p)).1 = .ok () ∧
    ∃ content, (d.makeDirectories (parent p)).2.write p content = .ok d'

/-- Where a file was written it can be written again. -/
theorem Rewrites.accepts (h : Rewrites p d d') : d'.Accepts p := by
  obtain ⟨hmade, content, hwrite⟩ := h
  have hthere : d'.isDirectory (parent p) = true :=
    isDirectory_keeps (keeps_write hwrite) (isDirectory_makeDirectories hmade)
  obtain ⟨place, hplace, hne, hnode, -⟩ := write_eq hwrite
  have hwritable : (d.makeDirectories (parent p)).2.Writable p := ⟨place, hplace, hnode⟩
  rw [Accepts, makeDirectories_of_isDirectory hthere]
  exact ⟨rfl, hwritable.after_write hwrite⟩

theorem Accepts.rewritten (h : d.Accepts p) (hd : Relation.ReflTransGen (Rewrites p) d d') :
    d'.Accepts p := by
  cases hd with
  | refl => exact h
  | tail _ hlast => exact hlast.accepts

/-- To write the settings touches no file of another name. -/
theorem touches_rewritten {dir : Path}
    (h : Relation.ReflTransGen (Rewrites (dir.child Store.filename)) d d') :
    d.Touches [Store.filename] d' := by
  induction h with
  | refl => exact (Grows.refl d).touches _
  | tail _ hlast ih =>
    obtain ⟨-, content, hwrite⟩ := hlast
    rw [child_storeFilename] at hwrite
    exact ih.trans (((grows_makeDirectories _ _).touches _).trans
      (write_touches (by decide) hwrite))

end Disk

namespace Action

variable {w : World} {p : Path}

theorem exec_writeFile_accepted (h : w.disk.Accepts p) (text : List Char) :
    ∃ d, Disk.Rewrites p w.disk d ∧ d.read p = .ok (Encoding.Utf8.encode text) ∧
      exec (writeFile p text) w = (.ok (), { w with disk := d }) := by
  obtain ⟨hmade, hwritable⟩ := h
  obtain ⟨d, hwrite⟩ := hwritable.write (Encoding.Utf8.encode text)
  refine ⟨d, ⟨hmade, _, hwrite⟩, Disk.read_write hwrite, ?_⟩
  rw [exec_writeFile]
  generalize w.disk.makeDirectories (parent p) = made at hmade hwrite
  obtain ⟨result, d₁⟩ := made
  obtain rfl : result = .ok () := hmade
  dsimp only at hwrite ⊢
  rw [hwrite]

/-- A store that is saved is open, and its file holds its values. -/
theorem exec_saveStore_accepted {s : Store} (h : w.disk.Accepts s.path) :
    ∃ d, Disk.Rewrites s.path w.disk d ∧
      d.read s.path = .ok (Encoding.Utf8.encode (Store.fileText s.values)) ∧
      exec (saveStore s) w = (.ok (), { w with store := some s, disk := d }) := by
  obtain ⟨d, hwrites, hread, hwritten⟩ := exec_writeFile_accepted
    (w := { w with store := some s }) h (Store.fileText s.values)
  exact ⟨d, hwrites, hread, (exec_saveStore s w).trans hwritten⟩

theorem writes_of_accepts (h : w.disk.Accepts p) (text : List Char) :
    (exec (writeFile p text) w).1 = .ok () := by
  obtain ⟨d, -, -, hwritten⟩ := exec_writeFile_accepted h text
  rw [hwritten]

/-- A file that is written successfully could be written. -/
theorem accepts_of_writeFile {text : List Char} (h : (exec (writeFile p text) w).1 = .ok ()) :
    w.disk.Accepts p := by
  rw [exec_writeFile] at h
  unfold Disk.Accepts
  generalize w.disk.makeDirectories (parent p) = made at h ⊢
  obtain ⟨result, d⟩ := made
  cases result with
  | error f => exact nomatch h
  | ok _ =>
    dsimp only at h ⊢
    cases hwrite : d.write p (Encoding.Utf8.encode text) with
    | error f =>
      rw [hwrite] at h
      exact nomatch h
    | ok d' =>
      obtain ⟨place, hplace, -, hnode, -⟩ := Disk.write_eq hwrite
      exact ⟨rfl, place, hplace, hnode⟩

end Action

/-! Speaking, and storing values. -/

/-- Stores values one after the other. -/
def Store.storeAll (changes : Dictionary Json) : Action Unit :=
  changes.forM fun change => Action.setStored change.1 change.2

namespace World

/-- A process may have a translator, or fail to load one, when it speaks while the file at a path is
being written. -/
def MaySpeak (w : World) (path : Path) (spoken : Except Crash Translator) : Prop :=
  ∃ d, Relation.ReflTransGen (Disk.Rewrites path) w.disk d ∧
    World.translator { w with disk := d } = spoken

variable {w v : World} {path : Path} {t : Translator}

theorem maySpeak_now (w : World) (path : Path) : w.MaySpeak path w.translator :=
  ⟨w.disk, .refl, rfl⟩

/-- A process whose tables are other files has the same translator all along. -/
theorem eq_of_maySpeak {dir : Path} {spoken : Except Crash Translator}
    (henglish : Settled [Store.filename] w.disk "en")
    (hlanguage : Settled [Store.filename] w.disk w.configuration.language)
    (h : w.MaySpeak (dir.child Store.filename) spoken) : spoken = w.translator := by
  obtain ⟨d, hd, rfl⟩ := h
  rw [World.translator, World.translator]
  dsimp only
  rw [load_touches (Disk.touches_rewritten hd) henglish hlanguage]

/-- A process keeps a translator for its language. -/
def Keeps (w : World) (t : Translator) : Prop :=
  w.translators.lookup w.configuration.language = some t

theorem Keeps.translator (h : w.Keeps t) : w.translator = .ok t := by
  rw [World.translator, h]

/-- A process that has spoken keeps its translator. -/
theorem keeps_spoken (ht : w.translator = .ok t) : w.spoken.Keeps t := by
  unfold World.spoken Keeps
  cases hlookup : w.translators.lookup w.configuration.language with
  | some kept =>
    rw [World.translator, hlookup] at ht
    dsimp only
    rw [hlookup, Except.ok.inj ht]
  | none =>
    rw [ht]
    exact lookup_append_self _ hlookup t

/-- One world comes from another one in which a store is open: changes were made to the store, one
after the other, and calls were made. The file of the store was written if there were any changes.
A translator that the process kept it still keeps, and it may have no new ones. -/
structure Saves (w : World) (s : Store) (changes : Dictionary Json) (asked : List Call)
    (v : World) : Prop where
  configuration : v.configuration = w.configuration
  store : v.store = some { s with values := s.values.merge changes }
  calls : v.calls = w.calls ++ asked
  network : v.network = w.network.drop asked.length
  disk : Relation.ReflTransGen (Disk.Rewrites s.path) w.disk v.disk
  file : changes = [] ∧ v.disk = w.disk ∨
    v.disk.read s.path = .ok (Encoding.Utf8.encode (Store.fileText (s.values.merge changes)))
  keeps : ∀ t, w.Keeps t → v.Keeps t
  speaks : ∀ spoken, v.MaySpeak s.path spoken → w.MaySpeak s.path spoken

namespace Saves

variable {s : Store} {changes later : Dictionary Json} {asked others : List Call} {u : World}

theorem refl (h : w.store = some s) : w.Saves s [] [] w where
  configuration := rfl
  store := h
  calls := (List.append_nil _).symm
  network := rfl
  disk := .refl
  file := .inl ⟨rfl, rfl⟩
  keeps _ ht := ht
  speaks _ hspoken := hspoken

theorem trans (h : w.Saves s changes asked v)
    (h' : v.Saves { s with values := s.values.merge changes } later others u) :
    w.Saves s (changes ++ later) (asked ++ others) u where
  configuration := h'.configuration.trans h.configuration
  store := by rw [h'.store, Dictionary.merge_append]
  calls := by rw [h'.calls, h.calls, List.append_assoc]
  network := by rw [h'.network, h.network, List.drop_drop, List.length_append]
  disk := h.disk.trans h'.disk
  file := by
    rw [Dictionary.merge_append]
    rcases h'.file with ⟨rfl, hdisk⟩ | hread
    · rw [hdisk, List.append_nil]
      exact h.file
    · exact .inr hread
  keeps t ht := h'.keeps t (h.keeps t ht)
  speaks spoken hspoken := h.speaks spoken (h'.speaks spoken hspoken)

/-- A call changes neither the store nor what can be told. -/
theorem called (h : w.store = some s) (call : Call) :
    w.Saves s [] [call] (w.called call (taken w.network).2) where
  configuration := rfl
  store := h
  calls := rfl
  network := by
    cases hnetwork : w.network with
    | nil => simp [World.called, taken]
    | cons o rest => simp [World.called, taken]
  disk := .refl
  file := .inl ⟨rfl, rfl⟩
  keeps _ ht := ht
  speaks _ hspoken := hspoken

/-- A process that speaks settles for a translator that it might have had. -/
theorem spoken (h : w.store = some s) : w.Saves s [] [] w.spoken := by
  obtain ⟨kept, hkept⟩ := World.spoken_eq w
  have hkeeps (t : Translator) (ht : w.Keeps t) : w.spoken.Keeps t := keeps_spoken ht.translator
  have hspeaks (spoken : Except Crash Translator) (hspoken : w.spoken.MaySpeak s.path spoken) :
      w.MaySpeak s.path spoken := by
    obtain ⟨d, hd, rfl⟩ := hspoken
    cases ht : w.translator with
    | ok t =>
      -- the tables are not read again
      have hkept : World.Keeps { w.spoken with disk := d } t := keeps_spoken ht
      rw [hkept.translator, ← ht]
      exact maySpeak_now w s.path
    | error e =>
      have hsame : w.spoken = w := by
        unfold World.spoken
        rw [ht]
        cases w.translators.lookup w.configuration.language <;> rfl
      rw [hsame] at hd ⊢
      exact ⟨d, hd, rfl⟩
  rw [hkept] at hkeeps hspeaks ⊢
  exact ⟨rfl, h, (List.append_nil _).symm, rfl, .refl, .inl ⟨rfl, rfl⟩, hkeeps, hspeaks⟩

/-- A value that is stored is written at once. -/
theorem setStored (h : w.store = some s) (haccepts : w.disk.Accepts s.path) (name : String)
    (value : Json) :
    ∃ v, exec (setStored name value) w = (.ok (), v) ∧ w.Saves s [(name, value)] [] v := by
  obtain ⟨d, hwritten, hread, hexec⟩ := exec_saveStore_accepted
    (s := { s with values := s.values.assign name value }) haccepts
  refine ⟨_, (exec_setStored h name value).trans hexec, ?_⟩
  refine ⟨rfl, rfl, (List.append_nil _).symm, rfl, .single hwritten, .inr hread,
    fun _ ht => ht, fun spoken hspoken => ?_⟩
  obtain ⟨d', hd', rfl⟩ := hspoken
  exact ⟨d', .head hwritten hd', rfl⟩

/-- Values are stored one after the other. -/
theorem storeAll (h : w.store = some s) (haccepts : w.disk.Accepts s.path)
    (changes : Dictionary Json) :
    ∃ v, exec (Store.storeAll changes) w = (.ok (), v) ∧ w.Saves s changes [] v := by
  induction changes generalizing w s with
  | nil => exact ⟨w, rfl, .refl h⟩
  | cons change changes ih =>
    obtain ⟨v, hset, hv⟩ := setStored h haccepts change.1 change.2
    obtain ⟨u, hrest, hu⟩ := ih hv.store (haccepts.rewritten hv.disk)
    exact ⟨u, (exec_bind_ok hset _).trans hrest, hv.trans hu⟩

end Saves

end World

/-! The store and its file afterwards. -/

/-- The file of a store holds its values, in whatever order. -/
def Store.HeldIn (s : Store) (d : Disk) : Prop :=
  (Store.valuesOf (contentOf d s.path)).Perm s.values

/-- A file that held the values of the store holds what they have become. -/
theorem World.Saves.heldIn {w v : World} {s : Store} {changes : Dictionary Json}
    {asked : List Call} (h : w.Saves s changes asked v)
    (hsound : ∀ entry ∈ changes, entry.2.Sound) (hheld : s.HeldIn w.disk) :
    Store.HeldIn { s with values := s.values.merge changes } v.disk := by
  rcases h.file with ⟨rfl, hdisk⟩ | hread
  · rw [hdisk]
    exact hheld
  · have hvalues : (Json.obj s.values).Sound := (sound_valuesOf _ _).perm hheld
    have hcontent := contentOf_written (hvalues.merge hsound) hread
    rw [Store.HeldIn]
    dsimp only
    rw [hcontent]
    exact List.Perm.refl _

end FormulaOcr
