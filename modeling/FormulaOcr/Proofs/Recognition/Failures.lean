import FormulaOcr.Proofs.Number.Overflow
import FormulaOcr.Proofs.Session.Kept
import FormulaOcr.Proofs.SimpleTex.Classes
import FormulaOcr.Proofs.Usage.Quota

/-! Which recognitions end in a crash. Whatever is wrong with a request, with the network and with
the answers of the two services is told to the user as a failure, with one exception: SimpleTex can
state a confidence that is too large for a number with a fraction. -/

namespace FormulaOcr

open FormulaOcr.Localization

namespace Action

variable {α β : Type} {P : World → Prop} {a : Action α} {f : α → Action β} {w : World} {c : Crash}

/-- An action ends in a crash. -/
def Crashes (a : Action α) (w : World) (c : Crash) : Prop :=
  (exec a w).1 = .error (.crash c)

/-- An action that keeps a property, and does not crash where it holds. -/
def Calm (P : World → Prop) (a : Action α) : Prop :=
  ∀ w, P w → P (exec a w).2 ∧ ∀ c, ¬ Crashes a w c

theorem crashes_bind_ok {x : α} {v : World} (h : exec a w = (.ok x, v)) :
    Crashes (a >>= f) w c ↔ Crashes (f x) v c := by
  rw [Crashes, exec_bind_ok h, Crashes]

theorem crashes_bind :
    Crashes (a >>= f) w c ↔
      Crashes a w c ∨ ∃ x v, exec a w = (.ok x, v) ∧ Crashes (f x) v c := by
  unfold Crashes
  rw [exec_bind]
  rcases exec a w with ⟨result, v⟩
  cases result with
  | ok x => simp
  | error e => simp

theorem not_crashes_pure (x : α) : ¬ Crashes (pure x) w c := by
  simp [Crashes, exec_pure]

/-- What can only crash at its beginning crashes as this does. -/
theorem crashes_bind_calm (ha : ∀ x v, exec a w = (.ok x, v) → P v) (hf : ∀ x, Calm P (f x)) :
    Crashes (a >>= f) w c ↔ Crashes a w c := by
  rw [crashes_bind, or_iff_left]
  rintro ⟨x, v, hexec, hcrash⟩
  exact (hf x v (ha x v hexec)).2 c hcrash

/-- What can only crash behind its beginning crashes where this has come to a result. -/
theorem Calm.crashes_bind (ha : Calm P a) (hw : P w) :
    Crashes (a >>= f) w c ↔ ∃ x v, exec a w = (.ok x, v) ∧ P v ∧ Crashes (f x) v c := by
  have hkept := ha w hw
  rw [Action.crashes_bind, or_iff_right (hkept.2 c)]
  constructor
  · rintro ⟨x, v, hexec, hcrash⟩
    rw [hexec] at hkept
    exact ⟨x, v, hexec, hkept.1, hcrash⟩
  · rintro ⟨x, v, hexec, -, hcrash⟩
    exact ⟨x, v, hexec, hcrash⟩

theorem Calm.pure (x : α) : Calm P (pure x) :=
  fun _ hw => ⟨hw, fun _ => not_crashes_pure x⟩

theorem Calm.bind (ha : Calm P a) (hf : ∀ x, Calm P (f x)) : Calm P (a >>= f) := by
  intro w hw
  obtain ⟨hkept, hcrash⟩ := ha w hw
  constructor
  · rw [exec_bind]
    cases hexec : exec a w with
    | mk result v =>
      rw [hexec] at hkept
      cases result with
      | ok x => exact (hf x v hkept).1
      | error e => exact hkept
  · intro c
    rw [crashes_bind_calm (fun x v hexec => by rw [hexec] at hkept; exact hkept) hf]
    exact hcrash c

theorem Calm.ite {d : Prop} [Decidable d] {b : Action α} (ha : d → Calm P a)
    (hb : ¬ d → Calm P b) : Calm P (if d then a else b) := by
  split_ifs with hd
  · exact ha hd
  · exact hb hd

/-- An action that keeps a property, and comes to a result where it holds. -/
def Settles (P : World → Prop) (a : Action α) : Prop :=
  ∀ w, P w → ∃ x v, exec a w = (.ok x, v) ∧ P v

theorem Settles.calm (ha : Settles P a) : Calm P a := by
  intro w hw
  obtain ⟨x, v, hexec, hkept⟩ := ha w hw
  unfold Crashes
  rw [hexec]
  exact ⟨hkept, by simp⟩

theorem Settles.pure (x : α) : Settles P (pure x) :=
  fun w hw => ⟨x, w, exec_pure x w, hw⟩

theorem Settles.bind (ha : Settles P a) (hf : ∀ x, Settles P (f x)) : Settles P (a >>= f) := by
  intro w hw
  obtain ⟨x, v, hexec, hkept⟩ := ha w hw
  rw [exec_bind_ok hexec]
  exact hf x v hkept

theorem Settles.mapM {g : α → Action β} (hg : ∀ x, Settles P (g x)) (xs : List α) :
    Settles P (xs.mapM g) := by
  induction xs with
  | nil => exact Settles.pure []
  | cons x xs ih =>
    rw [List.mapM_cons]
    exact (hg x).bind fun y => ih.bind fun ys => Settles.pure (y :: ys)

/-- What does not crash is a result once its failure is one. -/
theorem Calm.settles_attempt (ha : Calm P a) : Settles P (attempt a) := by
  intro w hw
  obtain ⟨hkept, hcrash⟩ := ha w hw
  unfold Crashes at hcrash
  rw [exec_attempt]
  generalize exec a w = done at hkept hcrash ⊢
  obtain ⟨result, v⟩ := done
  cases result with
  | ok x => exact ⟨_, v, rfl, hkept⟩
  | error e =>
    cases e with
    | failure f => exact ⟨_, v, rfl, hkept⟩
    | crash d => exact absurd rfl (hcrash d)

end Action

open FormulaOcr.Action

/-! Complaints that a complete table has words for. -/

namespace SiliconFlow

theorem listed_of_explained {c : Complaint} (h : Explained c) : c.Listed := by
  have hsub : complaints ⊆ valued := by decide
  exact h.imp_right fun hmem => hsub hmem

theorem listed_heard {o : Outcome} {c : Complaint} (h : heard o = .error c) : c.Listed :=
  listed_of_explained (explained_heard h)

end SiliconFlow

namespace SimpleTex

/-- A confidence that no binary floating-point number is near. -/
def Oversized (result : Json) : Prop :=
  ∃ n, result.member? "conf" = some (.int n) ∧ Binary64.overflowThreshold ≤ n.natAbs

theorem confidence_int {result : Json} {n : ℤ} (h : result.member? "conf" = some (.int n)) :
    (∃ x, confidence result = .ok x ∧ ¬ Oversized result) ∨
      confidence result = .error (.crash .numberTooLarge) ∧ Oversized result := by
  have hoversized : Oversized result ↔ ∃ negative, Binary64.ofInt n = .infinity negative := by
    rw [Binary64.ofInt_infinity_iff]
    constructor
    · rintro ⟨m, hm, hlarge⟩
      have hsame : n = m := Json.int.inj (Option.some.inj (h.symm.trans hm))
      rwa [hsame]
    · exact fun hlarge => ⟨n, h, hlarge⟩
  rw [hoversized]
  unfold confidence
  -- under a name of its own, the conversion is not computed on the way
  obtain ⟨convert, hconvert⟩ : ∃ convert, Binary64.ofInt = convert := ⟨_, rfl⟩
  rw [hconvert, h]
  dsimp only
  cases convert n with
  | infinity negative => exact .inr ⟨rfl, negative, rfl⟩
  | nan => exact .inl ⟨_, rfl, by simp⟩
  | finite negative units => exact .inl ⟨_, rfl, by simp⟩

theorem confidence_cases (result : Json) :
    (∃ x, confidence result = .ok x ∧ ¬ Oversized result) ∨
      confidence result = .error (.crash .numberTooLarge) ∧ Oversized result := by
  cases hconf : result.member? "conf" with
  | none => exact .inl ⟨.zero, by rw [confidence, hconf], by simp [Oversized, hconf]⟩
  | some value =>
    cases value with
    | int n => exact confidence_int hconf
    | float x => exact .inl ⟨x, by rw [confidence, hconf], by simp [Oversized, hconf]⟩
    | bool b =>
      exact .inl ⟨.ofInt (if b then 1 else 0), by rw [confidence, hconf],
        by simp [Oversized, hconf]⟩
    | _ => exact .inl ⟨.zero, by rw [confidence, hconf], by simp [Oversized, hconf]⟩

theorem Recognises.unique {r : Response} {result result' : Json} (h : Recognises r result)
    (h' : Recognises r result') : result = result' := by
  obtain ⟨-, members, hbody, -, rfl⟩ := h
  obtain ⟨-, members', hbody', -, rfl⟩ := h'
  rw [Json.obj.inj (Except.ok.inj (hbody.symm.trans hbody'))]

/-- An answer that recognises nothing is complained of. -/
theorem reading_other {r : Response} (h : ∀ result, ¬ Recognises r result) :
    ∃ c, reading r = .error (.complaint c) ∧ c.Listed := by
  obtain ⟨c, hc, -⟩ := reading_rejected (accepted_iff_recognises.not.2 (not_exists.2 h))
  exact ⟨c, hc, (known_reading hc).listed⟩

/-- An answer that recognises a picture with a confidence that is too large. -/
def Overflows (r : Response) : Prop :=
  ∃ result, Recognises r result ∧ Oversized result

/-- What an answer comes to: a text, something to complain of, or a crash if its confidence is too
large. -/
theorem reading_cases (r : Response) :
    (∃ found, reading r = .ok found ∧ ¬ Overflows r) ∨
      (∃ c, reading r = .error (.complaint c) ∧ c.Listed ∧ ¬ Overflows r) ∨
      reading r = .error (.crash .numberTooLarge) ∧ Overflows r := by
  by_cases hresult : ∃ result, Recognises r result
  · obtain ⟨result, h⟩ := hresult
    have hoverflows : Overflows r ↔ Oversized result :=
      ⟨fun ⟨_, h', hlarge⟩ => h.unique h' ▸ hlarge, fun hlarge => ⟨result, h, hlarge⟩⟩
    rw [reading_recognises h, hoverflows]
    rcases confidence_cases result with ⟨x, hx, hsmall⟩ | ⟨hx, hlarge⟩
    · rw [hx]
      exact .inl ⟨_, rfl, hsmall⟩
    · rw [hx]
      exact .inr (.inr ⟨rfl, hlarge⟩)
  · obtain ⟨c, hreading, hc⟩ := reading_other (not_exists.1 hresult)
    exact .inr (.inl ⟨c, hreading, hc, fun ⟨result, h, _⟩ => hresult ⟨result, h⟩⟩)

end SimpleTex

/-! Calls step by step. -/

/-- Worlds in which calls come to an answer or to something to complain of, one after the other: the
time that they may take is a number, the translator is there, and the outcome that is next is one of
a network. -/
structure Asking (t : Translator) (P : World → Prop) : Prop where
  timeout : ∀ w, P w → ∃ x, w.configuration.timeout = .ok x
  translator : ∀ w, P w → w.translator = .ok t
  network : ∀ w, P w → SiliconFlow.FromNetwork (taken w.network).1
  spoken : ∀ w, P w → P w.spoken
  called : ∀ w call, P w → P (w.called call (taken w.network).2)

theorem Asking.voiced {t : Translator} {P : World → Prop} (h : Asking t P) (w : World) (hw : P w) :
    w.translator = .ok t ∧ P w.spoken :=
  ⟨h.translator w hw, h.spoken w hw⟩

/-- Outcomes of a network leave such outcomes, and there is one even if there are none. -/
theorem SiliconFlow.fromNetwork_taken {outcomes : List Outcome}
    (h : ∀ o ∈ outcomes, FromNetwork o) :
    FromNetwork (taken outcomes).1 ∧ ∀ o ∈ (taken outcomes).2, FromNetwork o := by
  cases outcomes with
  | nil =>
    have hnone : Interruption.isNetwork ⟨"ConnectError", "no scripted response"⟩ = true := by
      decide
    exact ⟨hnone, by simp [taken]⟩
  | cons o rest => exact ⟨h o (by simp), fun o' ho' => h o' (List.mem_cons_of_mem o ho')⟩

/-- A world that serves recognitions: the time that calls may take is a number, the translator
lasts, the outcomes are those of a network, and the counters can be written. -/
structure World.Serving (w : World) (t : Translator) : Prop where
  timeout : ∃ x, w.configuration.timeout = .ok x
  speaks : w.Speaks t
  network : ∀ o ∈ w.network, SiliconFlow.FromNetwork o
  counters : ∃ dir : Path, w.counterPath = some (dir.child Usage.filename) ∧
    ∃ d, w.disk.makeDirectories dir = (.ok (), d) ∧ d.Writable (dir.child Usage.filename)

namespace World.Serving

variable {w : World} {t : Translator}

theorem spoken (h : w.Serving t) : w.spoken.Serving t := by
  have hspeaks := h.speaks.spoken
  obtain ⟨kept, hspoken⟩ := World.spoken_eq w
  rw [hspoken] at hspeaks ⊢
  exact ⟨h.timeout, hspeaks, h.network, h.counters⟩

theorem called (h : w.Serving t) (call : Call) :
    (w.called call (taken w.network).2).Serving t :=
  ⟨h.timeout, ⟨h.speaks.translator, h.speaks.lasting⟩,
    (SiliconFlow.fromNetwork_taken h.network).2, h.counters⟩

theorem asking (t : Translator) : Asking t (·.Serving t) where
  timeout _ hw := hw.timeout
  translator _ hw := hw.speaks.translator
  network _ hw := (SiliconFlow.fromNetwork_taken hw.network).1
  spoken _ hw := hw.spoken
  called _ call hw := hw.called call

/-- A service goes on to serve, step by step. -/
theorem basics (t : Translator) : Basics (Only (·.Serving t)) := by
  have htranslator : Agrees (Only (·.Serving t)) Action.translator :=
    agrees_only.2 fun w hw => by
      rw [exec_translator]
      exact hw.spoken
  have hcounters : Agrees (Only (·.Serving t)) Action.counterPath :=
    agrees_only.2 fun w hw => by
      obtain ⟨dir, hpath, -⟩ := hw.counters
      rw [exec_counterPath hpath]
      exact hw
  exact basics_only htranslator (fun w call hw => hw.called call)
    (fun w opened hw => ⟨hw.timeout, ⟨hw.speaks.translator, hw.speaks.lasting⟩, hw.network,
      hw.counters⟩) hcounters

end World.Serving

namespace Action

section

variable {α : Type} {P : World → Prop} {w : World} {t : Translator} (ht : t.Complete)
include ht

theorem exec_complain_listed (hw : w.translator = .ok t) {c : Complaint} (hc : c.Listed) :
    exec (complain c : Action α) w = (.error (.failure (worded t c)), w.spoken) := by
  rcases hc with hc | hc
  · exact exec_complain hw (by rw [hc]; rfl) (by rw [hc]; exact words_nil t c.key)
  · exact exec_complain hw (own_of_valued hc) (ht _ _ hc)

theorem calm_complain (hP : Asking t P) {c : Complaint} (hc : c.Listed) :
    Calm P (complain c : Action α) := by
  intro w hw
  have hexec := exec_complain_listed (α := α) ht (hP.translator w hw) hc
  unfold Crashes
  rw [hexec]
  exact ⟨hP.spoken w hw, by simp⟩

theorem calm_guarded (hP : Asking t P) {d : Prop} [Decidable d] {c : Complaint} (hc : c.Listed)
    {a : Action α} (ha : Calm P a) : Calm P (if d then (do complain c; a) else a) :=
  Calm.ite (fun _ => (calm_complain ht hP hc).bind fun _ => ha) fun _ => ha

/-- A message that the tables have is worded in all worlds that have the translator and keep a
property when it is loaded. -/
theorem settles_wording (hP : ∀ w, P w → w.translator = .ok t ∧ P w.spoken) {key : String}
    {values : Dictionary Json} (h : values = [] ∨ (key, values.keys) ∈ valued) :
    Settles P (wording key values) := by
  intro w hw
  obtain ⟨htranslator, hspoken⟩ := hP w hw
  exact ⟨_, _, exec_wording_said ht htranslator h, hspoken⟩

/-- A call to a provider gives the response that the network holds ready, or fails. -/
theorem exec_send_asking (hP : Asking t P) (hw : P w) (p : Provider) (verb : Verb) (path : String)
    (credential : Json) (headers : List (String × Json)) (payload : Payload) :
    ∃ v, P v ∧ v.network = (taken w.network).2 ∧
      exec (p.send verb path credential headers payload) w =
        (match (taken w.network).1 with
          | .response r => .ok r
          | .interrupted i => .error (.failure (worded t (.requestFailed i.detail))), v) := by
  obtain ⟨x, htimeout⟩ := hP.timeout w hw
  rw [exec_send_timed htimeout p verb path credential headers payload _ rfl]
  generalize Call.mk verb _ _ _ _ = call
  have hnetwork := hP.network w hw
  have hcalled := hP.called w call hw
  cases htaken : (taken w.network).1 with
  | response r => exact ⟨_, hcalled, rfl, rfl⟩
  | interrupted i =>
    have hi : i.isNetwork = true := by rwa [htaken] at hnetwork
    refine ⟨_, hP.spoken _ hcalled, World.network_spoken _, ?_⟩
    dsimp only [givenBack]
    rw [if_pos hi]
    exact exec_complain_listed ht (hP.translator _ hcalled) (Complaint.known_one (by decide)).listed

theorem calm_send (hP : Asking t P) (p : Provider) (verb : Verb) (path : String)
    (credential : Json) (headers : List (String × Json)) (payload : Payload) :
    Calm P (p.send verb path credential headers payload) := by
  intro w hw
  obtain ⟨v, hv, -, hexec⟩ := exec_send_asking ht hP hw p verb path credential headers payload
  unfold Crashes
  rw [hexec]
  refine ⟨hv, fun c => ?_⟩
  cases (taken w.network).1 <;> simp

end

/-! Recognitions step by step. -/

variable {α : Type} {w : World} {t : Translator} (ht : t.Complete)
include ht

theorem calm_ask (key : Json) (imageUrl modelId prompt : String) :
    Calm (·.Serving t) (SiliconFlow.ask key imageUrl modelId prompt) := by
  apply (calm_send ht (World.Serving.asking t) _ _ _ _ _ _).bind
  intro response
  rw [SiliconFlow.reading_eq_heard]
  cases hheard : SiliconFlow.heard (.response response) with
  | ok text => exact Calm.pure text
  | error c => exact calm_complain ht (World.Serving.asking t) (SiliconFlow.listed_heard hheard)

/-- A recognition by SiliconFlow never crashes. -/
theorem calm_withSiliconFlow (key image : String) (mode : Mode) (modelId : String) :
    Calm (·.Serving t) (Recognition.withSiliconFlow key image mode modelId) := by
  have hverify (imageUrl primary : String) :
      Calm (·.Serving t) (Recognition.verify key imageUrl modelId primary) := by
    apply (calm_ask ht _ _ _ _).settles_attempt.calm.bind
    intro result
    cases result <;> exact Calm.pure _
  unfold Recognition.withSiliconFlow
  dsimp only
  refine calm_guarded ht (World.Serving.asking t) (.inl rfl)
    ((calm_ask ht _ _ _ _).bind fun primary => ?_)
  exact Calm.ite (fun _ => Calm.pure _) fun _ =>
    Calm.ite (fun _ => hverify _ _) fun _ => Calm.pure _

omit ht in
/-- Counters that can be written are written. -/
theorem calm_countRecognition (id : String) :
    Calm (·.Serving t) (countRecognition id) := by
  intro w hw
  obtain ⟨dir, hpath, d, hmade, hwritable⟩ := hw.counters
  obtain ⟨d', hwrite⟩ := hwritable.write (Encoding.Utf8.encode
    ((Usage.inFile w.disk (dir.child Usage.filename)).increment w.today id).fileText)
  have hexec : exec (countRecognition id) w = (.ok (), { w with disk := d' }) := by
    rw [exec_countRecognition hpath, exec_writeFile, parent_usageFilename, hmade]
    dsimp only
    rw [hwrite]
  have hgrows := Disk.grows_makeDirectories w.disk dir
  have hdir := Disk.isDirectory_makeDirectories (d := w.disk) (p := dir) (by rw [hmade])
  rw [hmade] at hgrows hdir
  have htouches : d.Touches [Usage.filename] d' :=
    Disk.write_touches (by decide) (child_usageFilename dir ▸ hwrite)
  have hspeaks := hw.speaks.touches
    ((hgrows.touches stateFiles).trans (htouches.mono (by decide)))
  have hdir' := Disk.isDirectory_keeps (Disk.keeps_write hwrite) hdir
  unfold Crashes
  rw [hexec]
  exact ⟨⟨hw.timeout, hspeaks, hw.network, dir, hpath, d',
    Disk.makeDirectories_of_isDirectory hdir', hwritable.after_write hwrite⟩, by simp⟩

theorem calm_displayName (id : String) : Calm (·.Serving t) (SimpleTex.displayName id) := by
  unfold SimpleTex.displayName
  cases SimpleTex.findModel? id with
  | some model => exact (settles_wording ht (World.Serving.asking t).voiced (.inl rfl)).calm
  | none => exact Calm.pure id

omit ht in
theorem head?_eq_response_iff {outcomes : List Outcome} {r : Response} :
    outcomes.head? = some (.response r) ↔ (taken outcomes).1 = .response r := by
  cases outcomes with
  | nil => simp [taken]
  | cons o rest => simp [taken]

theorem crashes_ofComplaint_bind (hw : w.Serving t) {β : Type} {r : Except Complaint β}
    (hr : ∀ c, r = .error c → c.Listed) {f : β → Action α} {c : Crash} :
    Crashes (ofComplaint r >>= f) w c ↔ ∃ x, r = .ok x ∧ Crashes (f x) w c := by
  cases r with
  | ok x =>
    rw [ofComplaint, crashes_bind_ok (exec_pure x w)]
    simp
  | error d =>
    rw [ofComplaint, (calm_complain ht (World.Serving.asking t) (hr d rfl)).crashes_bind hw]
    simp [exec_complain_listed ht hw.speaks.translator (hr d rfl)]

theorem crashes_guarded (hw : w.Serving t) {d : Prop} [Decidable d] {complaint : Complaint}
    (hcomplaint : complaint.Listed) {a : Action α} {c : Crash} :
    Crashes (if d then (do complain complaint; a) else a) w c ↔ ¬ d ∧ Crashes a w c := by
  split_ifs with hd
  · rw [(calm_complain ht (World.Serving.asking t) hcomplaint).crashes_bind hw]
    simp [exec_complain_listed ht hw.speaks.translator hcomplaint, hd]
  · simp [hd]

/-- An answer is read with a crash exactly if it overflows. -/
theorem crashes_reading (hw : w.Serving t) (r : Response) (c : Crash) :
    Crashes (ofProblem (SimpleTex.reading r)) w c ↔
      c = .numberTooLarge ∧ SimpleTex.Overflows r := by
  rcases SimpleTex.reading_cases r with ⟨found, hr, hnone⟩ | ⟨d, hr, hd, hnone⟩ | ⟨hr, hlarge⟩
  · rw [hr]
    exact iff_of_false (not_crashes_pure found) fun h => hnone h.2
  · rw [hr]
    exact iff_of_false ((calm_complain ht (World.Serving.asking t) hd w hw).2 c) fun h => hnone h.2
  · have hcrash : Crashes (ofProblem (SimpleTex.reading r)) w c ↔ Crash.numberTooLarge = c := by
      rw [hr]
      simp [Crashes, ofProblem, raise, crash, exec_throw]
    rw [hcrash, eq_comm, and_iff_left hlarge]

/-- An upload crashes exactly if the picture can be sent and the answer overflows. -/
theorem crashes_upload (hw : w.Serving t) (token : Json) (image modelId : String)
    (mode : Option String) (c : Crash) :
    Crashes (SimpleTex.recognize token image modelId mode) w c ↔
      c = .numberTooLarge ∧ (∃ bytes, SimpleTex.decodeImage image = .ok bytes) ∧
        ∃ r, w.network.head? = some (.response r) ∧ SimpleTex.Overflows r := by
  have hsent (bytes : Bytes) :
      Crashes (SimpleTex.upload token bytes modelId mode "image.png" >>=
          fun response => ofProblem (SimpleTex.reading response)) w c ↔
        c = .numberTooLarge ∧
          ∃ r, w.network.head? = some (.response r) ∧ SimpleTex.Overflows r := by
    obtain ⟨v, hv, -, hexec⟩ := exec_send_asking ht (World.Serving.asking t) hw .simpletex .post
      modelId token [] (.upload { mode := mode.filter (· != ""), filename := "image.png", bytes })
    simp only [head?_eq_response_iff]
    unfold SimpleTex.upload
    cases htaken : (taken w.network).1 with
    | response r =>
      rw [htaken] at hexec
      rw [crashes_bind_ok hexec, crashes_reading ht hv]
      simp
    | interrupted i =>
      rw [htaken] at hexec
      rw [Crashes, exec_bind_error hexec]
      simp
  unfold SimpleTex.recognize
  rw [crashes_ofComplaint_bind ht hw fun d hd => (SimpleTex.known_decodeImage hd).listed]
  simp only [hsent]
  constructor
  · rintro ⟨bytes, hbytes, hc, hr⟩
    exact ⟨hc, ⟨bytes, hbytes⟩, hr⟩
  · rintro ⟨hc, ⟨bytes, hbytes⟩, hr⟩
    exact ⟨bytes, hbytes, hc, hr⟩

/-- A recognition by SimpleTex crashes if its upload does. -/
theorem crashes_withSimpleTex (hw : w.Serving t) (token image : String) (mode : Mode)
    (modelId : String) (c : Crash) :
    Crashes (Recognition.withSimpleTex token image mode modelId) w c ↔
      token ≠ "" ∧ Crashes (SimpleTex.recognize (.str token) image modelId
        (SimpleTex.uploadMode modelId mode)) w c := by
  have hlabel (name : String) : Calm (·.Serving t)
      (Action.wording "recognition.simpletex_label" [("name", .str name)]) :=
    (settles_wording ht (World.Serving.asking t).voiced (.inr (by
      have : ("recognition.simpletex_label", ["name"]) ∈ valued := by decide
      exact this))).calm
  have hkept (found : String × Binary64) (v : World)
      (hexec : exec (SimpleTex.recognize (.str token) image modelId
        (SimpleTex.uploadMode modelId mode)) w = (.ok found, v)) : v.Serving t := by
    have := agrees_only.1 ((World.Serving.basics t).simpleTexRecognize (.str token) image modelId
      (SimpleTex.uploadMode modelId mode)) w hw
    rwa [hexec] at this
  unfold Recognition.withSimpleTex
  dsimp only
  rw [crashes_guarded ht hw (.inl rfl), crashes_bind_calm hkept fun found =>
    (calm_countRecognition modelId).bind fun _ => (calm_displayName ht modelId).bind fun name =>
      (hlabel name).bind fun label => Calm.pure _]

omit ht in
theorem quotaModel_eq_some {r : Except Complaint Recognition.Selection} {id : String} :
    quotaModel r = some id ↔ ∃ selection, r = .ok selection ∧ selection.provider = .simpletex ∧
      selection.modelId = id := by
  cases r with
  | error c => simp [quotaModel]
  | ok selection => simp [quotaModel]

/-- A recognition crashes if it goes to a model of SimpleTex and crashes there. -/
theorem crashes_recognize (hw : w.Serving t) (request : Recognition.Request)
    (credentials : Recognition.Credentials) (c : Crash) :
    Crashes (Recognition.recognize request credentials) w c ↔
      ∃ id, quotaModel (Recognition.select request.selector request.mode
          (credentials.token != "")) = some id ∧ id ≠ "" ∧
        Crashes (Recognition.withSimpleTex credentials.token request.image request.mode id)
          w c := by
  simp only [quotaModel_eq_some]
  unfold Recognition.recognize
  rw [crashes_ofComplaint_bind ht hw fun d hd => (known_select hd).listed]
  have hlisted : Complaint.noModelSelected.Listed := .inl rfl
  simp only [crashes_guarded ht hw hlisted]
  constructor
  · rintro ⟨selection, hselection, hmodel, hcrash⟩
    cases hprovider : selection.provider with
    | simpletex =>
      rw [hprovider] at hcrash
      exact ⟨_, ⟨selection, hselection, hprovider, rfl⟩, hmodel, hcrash⟩
    | siliconflow =>
      rw [hprovider] at hcrash
      exact absurd hcrash ((calm_withSiliconFlow ht _ _ _ _ w hw).2 c)
  · rintro ⟨-, ⟨selection, hselection, hprovider, rfl⟩, hmodel, hcrash⟩
    refine ⟨selection, hselection, hmodel, ?_⟩
    rw [hprovider]
    exact hcrash

end Action

/-- The token in the store of the process. -/
def World.storedToken (w : World) : String :=
  (w.store.getD ⟨⟨"", []⟩, []⟩).text Store.tokenName

namespace Recognition

/-- A request is an upload of a picture to SimpleTex: there is a token, the request leads to a model
of SimpleTex, and the picture can be sent. -/
def Uploads (w : World) (image mode modelId : String) : Prop :=
  w.storedToken ≠ "" ∧
    (∃ id, id ≠ "" ∧ askedModel (.str mode) (.str modelId) w.storedToken = some id) ∧
    ∃ bytes, SimpleTex.decodeImage (Text.trimmed image) = .ok bytes

theorem strip_str (s : String) : Command.strip (.str s) = .ok (Text.trimmed s) := by
  unfold Command.strip Json.orElse
  cases hsays : (Json.str s).isTruthy with
  | true => rfl
  | false =>
    have hempty : s = "" := by simpa [Json.isTruthy] using hsays
    rw [hempty]
    rfl

theorem decodeImage_empty : SimpleTex.decodeImage "" = .error .imageMissing := rfl

variable {w : World} {t : Translator}

/-- A recognition crashes exactly if it is an upload and the answer to it overflows. -/
theorem crashes_runRecognize (ht : t.Complete) (hw : w.Serving t) (image mode modelId : String)
    (c : Crash) :
    Crashes (Command.runRecognize (.str image) (.str mode) (.str modelId)) w c ↔
      c = .numberTooLarge ∧ Uploads w image mode modelId ∧
        ∃ r, w.network.head? = some (.response r) ∧ SimpleTex.Overflows r := by
  unfold Command.runRecognize
  rw [strip_str, ofCrash, pure_bind, crashes_guarded ht hw (.inl rfl),
    crashes_ofComplaint_bind ht hw fun d hd => (known_parse hd).listed]
  simp only [strip_str, ofCrash, pure_bind]
  have hstored (m : Mode) : Crashes (do
      let token ← storedText Store.tokenName
      let key ← storedText Store.keyName
      recognize { image := Text.trimmed image, mode := m, selector := Text.trimmed modelId }
        { token, key }) w c ↔
      ∃ id, quotaModel (select (Text.trimmed modelId) m (w.storedToken != "")) = some id ∧
        id ≠ "" ∧ w.storedToken ≠ "" ∧ c = .numberTooLarge ∧
        (∃ bytes, SimpleTex.decodeImage (Text.trimmed image) = .ok bytes) ∧
        ∃ r, w.network.head? = some (.response r) ∧ SimpleTex.Overflows r := by
    have hexec (name : String) : exec (storedText name) w =
        (.ok ((w.store.getD ⟨⟨"", []⟩, []⟩).text name), w) := rfl
    rw [crashes_bind_ok (hexec _), crashes_bind_ok (hexec _), crashes_recognize ht hw]
    simp only [crashes_withSimpleTex ht hw, crashes_upload ht hw]
    rfl
  simp only [hstored]
  constructor
  · rintro ⟨-, m, hm, id, hid, hne, htoken, hc, himage, hr⟩
    refine ⟨hc, ⟨htoken, ⟨id, hne, ?_⟩, himage⟩, hr⟩
    rw [askedModel, hm, strip_str]
    exact hid
  · rintro ⟨hc, ⟨htoken, ⟨id, hne, hid⟩, bytes, hbytes⟩, hr⟩
    unfold askedModel at hid
    rw [strip_str] at hid
    cases hm : Mode.parse (.str mode) with
    | error d => simp [hm] at hid
    | ok m =>
      rw [hm] at hid
      refine ⟨fun hempty => ?_, m, rfl, id, hid, hne, htoken, hc, ⟨bytes, hbytes⟩, hr⟩
      rw [hempty, decodeImage_empty] at hbytes
      cases hbytes

/-- A recognition ends with a result, or with a failure that is told to the user, unless it uploads
a picture to SimpleTex and the answer states a confidence that is too large for a binary
floating-point number: then it crashes. -/
theorem recognition_ends (ht : t.Complete) (hw : w.Serving t) (image mode modelId : String) :
    let ended := (exec (Command.runRecognize (.str image) (.str mode) (.str modelId)) w).1
    let overflows := Uploads w image mode modelId ∧
      ∃ r, w.network.head? = some (.response r) ∧ SimpleTex.Overflows r
    (¬ overflows → (∃ result, ended = .ok result) ∨ ∃ f, ended = .error (.failure f)) ∧
      (overflows → ended = .error (.crash .numberTooLarge)) := by
  intro ended overflows
  have hcrashes (c : Crash) : ended = .error (.crash c) ↔ c = .numberTooLarge ∧ overflows :=
    crashes_runRecognize ht hw image mode modelId c
  refine ⟨fun hnone => ?_, fun hoverflows => (hcrashes _).2 ⟨rfl, hoverflows⟩⟩
  generalize ended = result at hcrashes ⊢
  cases result with
  | ok result => exact .inl ⟨result, rfl⟩
  | error e =>
    cases e with
    | failure f => exact .inr ⟨f, rfl⟩
    | crash c => exact absurd ((hcrashes c).1 rfl).2 hnone

/-- A result with a confidence of 10 to the power of 400, and the answer that brings it. -/
def oversizedResult : Json :=
  .obj [("latex", .str "x"), ("conf", .int (10 ^ 400))]

def oversizedAnswer : Response :=
  ⟨200, Encoding.Utf8.encode
    (Json.write Json.oneLine (.obj [("status", .bool true), ("res", oversizedResult)]))⟩

/-- A service in English with a token, for which SimpleTex has this answer. -/
def overconfident : World :=
  { configuration := ⟨[("FORMULASNAP_LANG", .str "en")], []⟩, disk := install ⟨[]⟩
    today := "2026-03-01", network := [.response oversizedAnswer], browser := true, calls := []
    opened := [], store := some ⟨⟨"/", ["data", "config.json"]⟩, [(Store.tokenName, .str "t")]⟩
    counterPath := some ⟨"/", ["data", "usage.json"]⟩, translators := [] }

theorem serving_overconfident : overconfident.Serving inEnglish where
  timeout := ⟨.finite false (120 * Binary64.unitsPerOne), eq_ok_of_toOption (by decide +kernel)⟩
  speaks := speaks_english (by decide +kernel) rfl installed_install
  network o ho := by
    obtain rfl : o = .response oversizedAnswer := by simpa [overconfident] using ho
    trivial
  counters := by
    refine ⟨⟨"/", ["data"]⟩, rfl, (overconfident.disk.makeDirectories ⟨"/", ["data"]⟩).2, ?_,
      ["data", "usage.json"], eq_ok_of_toOption (by decide +kernel), by decide +kernel⟩
    exact Prod.ext (eq_ok_of_toOption (by decide +kernel)) rfl

theorem overflows_oversizedAnswer : SimpleTex.Overflows oversizedAnswer := by
  have hsound : (Json.obj [("status", .bool true), ("res", oversizedResult)]).Sound := by
    simp [oversizedResult, Json.Sound, Json.Everywhere, Json.EverywhereMembers, -Int.reducePow]
  have hdecoded : Encoding.decodeDetected oversizedAnswer.body =
      .ok (Json.write Json.oneLine (.obj [("status", .bool true), ("res", oversizedResult)])) :=
    eq_ok_of_toOption (by decide +kernel)
  have hbody : Response.jsonOfBytes oversizedAnswer.body =
      .ok (.obj [("status", .bool true), ("res", oversizedResult)]) := by
    rw [Response.jsonOfBytes, hdecoded]
    dsimp only
    rw [Json.readDecoded_write _ hsound]
    rfl
  exact ⟨oversizedResult, ⟨rfl, _, hbody, rfl, rfl⟩, 10 ^ 400, rfl, by decide +kernel⟩

theorem recognition_ends_overconfident :
    (exec (Command.runRecognize (.str "AAAA") (.str "formula") (.str "simpletex:latex_ocr"))
      overconfident).1 = .error (.crash .numberTooLarge) := by
  have huploads : Uploads overconfident "AAAA" "formula" "simpletex:latex_ocr" :=
    ⟨by decide, ⟨"latex_ocr", by decide, by decide +kernel⟩, [0, 0, 0],
      eq_ok_of_toOption (by decide +kernel)⟩
  exact (recognition_ends complete_inEnglish serving_overconfident "AAAA" "formula"
    "simpletex:latex_ocr").2 ⟨huploads, _, rfl, overflows_oversizedAnswer⟩

end Recognition

end FormulaOcr
