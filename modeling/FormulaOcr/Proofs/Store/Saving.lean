import FormulaOcr.Proofs.Localization.Layers
import FormulaOcr.Proofs.SimpleTex.Clearing
import FormulaOcr.Proofs.Store.Rewriting
import FormulaOcr.Proofs.Store.Writing

/-! Saving settings. A credential that is given is validated by one call and then stored, or cleared
if it is rejected; a model and a list of vouchers that are given are stored as they are. No field
touches another one, and the file of the store follows what is in memory. -/

namespace FormulaOcr

open FormulaOcr.Action FormulaOcr.Localization FormulaOcr.SiliconFlow

/-! Telling of a credential that was rejected. -/

/-- The message that tells that a credential was rejected. -/
def Provider.rejection : Provider → String
  | .simpletex => "settings.simpletex_token_invalid"
  | .siliconflow => "settings.siliconflow_key_invalid"

namespace Localization.Translator

/-- The text of a message without values; the key stands for one that is not there. -/
def textOf (t : Translator) (key : String) : String :=
  ((t.messages.find? key).bind Json.text?).getD key

/-- A translator can tell that a credential was rejected upon an outcome: its message is a text, and
there are words for a call that failed. -/
structure Tells (t : Translator) (p : Provider) (o : Outcome) : Prop where
  text : ∀ j, t.messages.find? p.rejection = some j → ∃ text, j = .str text
  failed : ∀ i, o = .interrupted i → ∃ j,
    t.translate (Complaint.requestFailed i.detail).key (Complaint.requestFailed i.detail).values =
      .ok j

theorem Tells.translate {t : Translator} {p : Provider} {o : Outcome} (h : t.Tells p o) :
    t.translate p.rejection [] = .ok (.str (t.textOf p.rejection)) := by
  have hmessage : t.translate p.rejection [] =
      .ok ((t.messages.find? p.rejection).getD (.str p.rejection)) := rfl
  rw [hmessage, textOf]
  cases hfind : t.messages.find? p.rejection with
  | none => rfl
  | some j =>
    obtain ⟨text, rfl⟩ := h.text j hfind
    rfl

end Localization.Translator

/-- Whichever translator a process has then, it can tell that a credential was rejected. -/
def World.Tells (w : World) (path : Path) (p : Provider) (o : Outcome) : Prop :=
  ∀ spoken, w.MaySpeak path spoken → ∃ t, spoken = .ok t ∧ t.Tells p o

theorem World.Saves.tells {w v : World} {s : Store} {changes : Dictionary Json} {asked : List Call}
    {p : Provider} {o : Outcome} (h : w.Saves s changes asked v) (ht : w.Tells s.path p o) :
    v.Tells s.path p o :=
  fun spoken hspoken => ht spoken (h.speaks spoken hspoken)

/-! Validating a credential. -/

namespace Provider

/-- The call that validates a credential. -/
def check (c : Configuration) (timeout : Binary64) (credential : String) : Provider → Call
  | .simpletex =>
    { verb := .post, url := Provider.simpletex.url c SimpleTex.turboModel.id, timeout
      headers := some (Dictionary.merge (Provider.simpletex.authHeaders (.str credential)) [])
      payload := .upload
        { mode := none, filename := "test.png"
          bytes := (Encoding.Base64.decode SimpleTex.testImage.toList).toOption.getD [] } }
  | .siliconflow =>
    { verb := .get, url := Provider.siliconflow.url c "user/info", timeout
      headers := some (Dictionary.merge (Provider.siliconflow.authHeaders (.str credential)) [])
      payload := .nothing }

/-- Whether a credential is accepted upon an outcome of its validation. -/
def grants : Provider → Outcome → Bool
  | _, .interrupted _ => false
  | .simpletex, .response r => SimpleTex.accepts r
  | .siliconflow, .response r => r.isSuccess

end Provider

/-- What is told of credentials that were rejected: the text for each, by the translator that the
process keeps. -/
def World.Reports (w : World) (rejected : List Provider) (errors : List String) : Prop :=
  rejected = [] ∧ errors = [] ∨
    ∃ t, w.Keeps t ∧ errors = rejected.map fun p => t.textOf p.rejection

theorem World.Reports.append {w v : World} {rejected others : List Provider}
    {errors further : List String} (h : w.Reports rejected errors)
    (hkeeps : ∀ t, w.Keeps t → v.Keeps t) (h' : v.Reports others further) :
    v.Reports (rejected ++ others) (errors ++ further) := by
  rcases h with ⟨rfl, rfl⟩ | ⟨t, ht, rfl⟩
  · exact h'
  · have hv := hkeeps t ht
    right
    rcases h' with ⟨rfl, rfl⟩ | ⟨t', ht', rfl⟩
    · exact ⟨t, hv, by simp⟩
    · obtain rfl : t = t' := Option.some.inj (hv.symm.trans ht')
      exact ⟨t, hv, List.map_append.symm⟩

namespace Action

variable {w : World} {s : Store} {p : Provider} {x : Binary64}

/-- A call of a credential check has a response, or its failure for a result. -/
theorem exec_reach_send (htimeout : w.configuration.timeout = .ok x)
    (hnetwork : FromNetwork w.outcome)
    (hvoices : ∀ i, w.outcome = .interrupted i → w.Voices (.requestFailed i.detail))
    (hstore : w.store = some s) (verb : Verb) (path : String) (credential : Json)
    (headers : List (String × Json)) (payload : Payload) (call : Call)
    (hcall : call = { verb, url := p.url w.configuration path, timeout := x
                      headers := some (Dictionary.merge (p.authHeaders credential) headers)
                      payload }) :
    ∃ answer v, exec (reach (p.send verb path credential headers payload)) w = (.ok answer, v) ∧
      w.Saves s [] [call] v ∧
      ((∃ r, w.outcome = .response r ∧ answer = .ok r) ∨
        ∃ i f, w.outcome = .interrupted i ∧ answer = .error f) := by
  have hsent := exec_send_timed htimeout p verb path credential headers payload call hcall
  have hcalled := World.Saves.called hstore call
  rw [← World.outcome] at hsent
  cases houtcome : w.outcome with
  | response r =>
    rw [houtcome] at hsent
    exact ⟨.ok r, _, by rw [SimpleTex.exec_reach, hsent]; rfl, hcalled, .inl ⟨r, rfl, rfl⟩⟩
  | interrupted i =>
    rw [houtcome] at hsent hnetwork
    have hi : i.isNetwork = true := hnetwork
    have hvoiced : (w.called call (taken w.network).2).Voices (.requestFailed i.detail) :=
      hvoices i houtcome
    obtain ⟨message, hcomplained⟩ := exec_complain_voiced (α := Response) hvoiced
    rw [givenBack, if_pos hi] at hsent
    dsimp only at hsent
    rw [hcomplained] at hsent
    exact ⟨.error ⟨.requestFailed i.detail, message⟩, _, by rw [SimpleTex.exec_reach, hsent]; rfl,
      hcalled.trans (.spoken hcalled.store), .inr ⟨i, _, rfl, rfl⟩⟩

/-- The validation of a credential is one call, and comes to whether it is accepted. -/
theorem exec_validate (htimeout : w.configuration.timeout = .ok x)
    (hnetwork : FromNetwork w.outcome)
    (htells : p.grants w.outcome = false → w.Tells s.path p w.outcome)
    (hstore : w.store = some s) (credential : String) :
    ∃ v, exec (p.validate (.str credential)) w = (.ok (p.grants w.outcome), v) ∧
      w.Saves s [] [p.check w.configuration x credential] v := by
  have hvoices (i : Interruption) (hi : w.outcome = .interrupted i) :
      w.Voices (.requestFailed i.detail) := by
    obtain ⟨t, ht, htold⟩ := htells (by rw [hi]; cases p <;> rfl) _ (World.maySpeak_now _ _)
    obtain ⟨j, hj⟩ := htold.failed i hi
    exact ⟨t, j, ht, hj⟩
  cases p with
  | simpletex =>
    obtain ⟨answer, v, hreach, hv, hanswer⟩ := exec_reach_send htimeout hnetwork hvoices hstore
      .post SimpleTex.turboModel.id (.str credential) [] _ _ rfl
    refine ⟨v, (exec_bind_ok hreach _).trans ?_, hv⟩
    rcases hanswer with ⟨r, houtcome, rfl⟩ | ⟨i, f, houtcome, rfl⟩ <;> rw [houtcome] <;> rfl
  | siliconflow =>
    obtain ⟨answer, v, hreach, hv, hanswer⟩ := exec_reach_send htimeout hnetwork hvoices hstore
      .get "user/info" (.str credential) [] _ _ rfl
    refine ⟨v, (exec_bind_ok hreach _).trans ?_, hv⟩
    rcases hanswer with ⟨r, houtcome, rfl⟩ | ⟨i, f, houtcome, rfl⟩ <;> rw [houtcome] <;> rfl

/-- A credential that is given is validated by one call, and stored or cleared. -/
theorem exec_saveCredential (htimeout : w.configuration.timeout = .ok x)
    (hnetwork : FromNetwork w.outcome)
    (htells : p.grants w.outcome = false → w.Tells s.path p w.outcome)
    (hstore : w.store = some s) (haccepts : w.disk.Accepts s.path) {credential : String}
    (hgiven : credential ≠ "") :
    ∃ errors v, exec (Command.saveCredential p p.credentialName p.rejection (.str credential)) w =
        (.ok errors, v) ∧
      w.Saves s [(p.credentialName, .str (if p.grants w.outcome then credential else ""))]
        [p.check w.configuration x credential] v ∧
      v.Reports (if p.grants w.outcome then [] else [p]) errors := by
  obtain ⟨v, hvalid, hv⟩ := exec_validate htimeout hnetwork htells hstore credential
  have hthere : (!(Json.str credential).isTruthy) = false := by
    simpa [Json.isTruthy] using hgiven
  have hset := World.Saves.setStored hv.store (haccepts.rewritten hv.disk) p.credentialName
  unfold Command.saveCredential
  rw [hthere, if_neg (by simp), exec_bind_ok hvalid]
  cases hgrants : p.grants w.outcome with
  | true =>
    obtain ⟨u, hstored, hu⟩ := hset (.str credential)
    exact ⟨[], u, exec_bind_ok hstored _, hv.trans hu, .inl ⟨rfl, rfl⟩⟩
  | false =>
    obtain ⟨u, hstored, hu⟩ := hset (.str "")
    have hsaved := hv.trans hu
    obtain ⟨t, ht, htold⟩ := hsaved.tells (htells hgrants) _ (World.maySpeak_now _ _)
    have hworded : exec (wording p.rejection) u = (.ok (t.textOf p.rejection), u.spoken) :=
      exec_wording ht rfl htold.translate
    refine ⟨[t.textOf p.rejection], u.spoken, ?_, hsaved.trans (.spoken hsaved.store), ?_⟩
    · rw [if_neg (by simp), exec_bind_ok hstored, exec_bind_ok hworded]
      rfl
    · exact .inr ⟨t, World.keeps_spoken ht, rfl⟩

end Action

/-! The fields of the settings. -/

/-- What is sent to be saved: each field a text or absent. -/
structure Submission where
  token : Option String
  key : Option String
  model : Option String
  vouchers : Option String

namespace Submission

variable (f : Submission)

/-- The command that saves the fields. -/
def command : Command :=
  .saveSettings (.ofText? f.token) (.ofText? f.key) (.ofText? f.model) (.ofText? f.vouchers)

def argument : Provider → Option String
  | .simpletex => f.token
  | .siliconflow => f.key

/-- The credential that is given for a provider. An empty one is none. -/
def credential (p : Provider) : Option String :=
  (f.argument p).filter (· ≠ "")

/-- The providers for which a credential is given. -/
def asked : List Provider :=
  Provider.all.filter fun p => (f.credential p).isSome

/-- The outcome of the validation for a provider. A validation takes the next outcome that the
network holds ready, and that of the token comes first. -/
def outcome (network : List Outcome) : Provider → Outcome
  | .simpletex => (taken network).1
  | .siliconflow => (taken (network.drop (f.credential .simpletex).toList.length)).1

/-- Whether the credential for a provider is accepted. -/
def granted (network : List Outcome) (p : Provider) : Bool :=
  p.grants (f.outcome network p)

/-- The providers whose credentials are rejected. -/
def rejected (network : List Outcome) : List Provider :=
  f.asked.filter fun p => !f.granted network p

/-- The call for a provider: one if a credential is given. -/
def call (c : Configuration) (timeout : Binary64) (p : Provider) : Option Call :=
  (f.credential p).map fun text => p.check c timeout text

def calls (c : Configuration) (timeout : Binary64) : List Call :=
  Provider.all.filterMap (f.call c timeout)

/-- What is stored for a provider: the credential that is given, or nothing in its place. -/
def stored (network : List Outcome) (p : Provider) : Option Json :=
  (f.credential p).map fun text => .str (if f.granted network p then text else "")

/-- What is stored of the other fields. -/
def preferences : Dictionary (Option Json) :=
  [(Store.modelName, f.model.map .str),
   (Store.vouchersName, f.vouchers.map fun text => .texts (Command.voucherModels text))]

/-- What is stored under each name, if anything is. -/
def fields (network : List Outcome) : Dictionary (Option Json) :=
  Provider.all.map (fun p => (p.credentialName, f.stored network p)) ++ f.preferences

/-- Saving settings is saving the two credentials and storing the other fields. -/
theorem runSaveSettings_eq :
    Command.runSaveSettings (.ofText? f.token) (.ofText? f.key) (.ofText? f.model)
        (.ofText? f.vouchers) = (do
      let tokenErrors ← Command.saveCredential .simpletex Provider.simpletex.credentialName
        Provider.simpletex.rejection (.ofText? f.token)
      let keyErrors ← Command.saveCredential .siliconflow Provider.siliconflow.credentialName
        Provider.siliconflow.rejection (.ofText? f.key)
      Store.storeAll f.preferences.present
      return tokenErrors ++ keyErrors) := by
  obtain ⟨token, key, model, vouchers⟩ := f
  cases model <;> cases vouchers <;>
    simp [Command.runSaveSettings, Json.ofText?, Store.storeAll, preferences, Dictionary.present,
      Command.parseVouchers, ofCrash, Provider.rejection, Provider.credentialName]

theorem filterMap_all {α : Type} (g : Provider → Option α) :
    Provider.all.filterMap g = (g .simpletex).toList ++ (g .siliconflow).toList := by
  cases hfirst : g .simpletex <;> cases hsecond : g .siliconflow <;>
    simp [Provider.all, hfirst, hsecond]

theorem rejected_eq (network : List Outcome) :
    f.rejected network =
      (if (f.credential .simpletex).isSome && !f.granted network .simpletex then
        [Provider.simpletex] else []) ++
      (if (f.credential .siliconflow).isSome && !f.granted network .siliconflow then
        [Provider.siliconflow] else []) := by
  rw [rejected, asked, List.filter_filter, Provider.all]
  simp only [List.filter_cons, List.filter_nil, Bool.and_comm]
  split_ifs <;> rfl

theorem mem_asked {p : Provider} : p ∈ f.asked ↔ (f.credential p).isSome := by
  cases p <;> simp [asked, Provider.all]

theorem mem_rejected {network : List Outcome} {p : Provider} :
    p ∈ f.rejected network ↔ (f.credential p).isSome ∧ f.granted network p = false := by
  rw [rejected, List.mem_filter, mem_asked]
  simp

/-- A credential that may be given is validated and saved if it is. -/
theorem exec_saveArgument {w : World} {s : Store} {p : Provider} {x : Binary64}
    {network : List Outcome} (hstore : w.store = some s) (haccepts : w.disk.Accepts s.path)
    (houtcome : w.outcome = f.outcome network p)
    (htimeout : p ∈ f.asked → w.configuration.timeout = .ok x)
    (hnetwork : p ∈ f.asked → FromNetwork (f.outcome network p))
    (htells : p ∈ f.rejected network → w.Tells s.path p (f.outcome network p)) :
    ∃ errors v, exec (Command.saveCredential p p.credentialName p.rejection
        (.ofText? (f.argument p))) w = (.ok errors, v) ∧
      w.Saves s (Dictionary.present [(p.credentialName, f.stored network p)])
        (f.call w.configuration x p).toList v ∧
      v.Reports (if (f.credential p).isSome && !f.granted network p then [p] else [])
        errors := by
  rw [mem_asked] at htimeout hnetwork
  rw [mem_rejected] at htells
  rw [stored, call]
  cases hgiven : f.credential p with
  | none =>
    have hfalsy : (Json.ofText? (f.argument p)).isTruthy = false := by
      rw [credential] at hgiven
      cases hargument : f.argument p with
      | none => rfl
      | some text =>
        rw [hargument] at hgiven
        simpa [Json.ofText?, Json.isTruthy] using hgiven
    rw [saveCredential_of_falsy hfalsy]
    exact ⟨[], w, rfl, .refl hstore, .inl ⟨rfl, rfl⟩⟩
  | some text =>
    obtain ⟨hargument, hne⟩ := Option.filter_eq_some_iff.1 hgiven
    rw [hgiven] at htimeout hnetwork htells
    rw [granted, ← houtcome] at htells ⊢
    rw [← houtcome] at hnetwork
    obtain ⟨errors, v, hexec, hsaves, hreports⟩ := exec_saveCredential (htimeout rfl)
      (hnetwork rfl) (fun hgrants => htells ⟨rfl, hgrants⟩) hstore haccepts (by simpa using hne)
    refine ⟨errors, v, by rw [hargument]; exact hexec, hsaves, ?_⟩
    cases hgrants : p.grants w.outcome <;> simpa [hgrants] using hreports

/-- All that is sent is saved, in order; what is told is which credentials were rejected. -/
theorem exec_runSaveSettings {w : World} {s : Store} {x : Binary64} (hstore : w.store = some s)
    (haccepts : w.disk.Accepts s.path)
    (htimeout : f.asked ≠ [] → w.configuration.timeout = .ok x)
    (hnetwork : ∀ p ∈ f.asked, FromNetwork (f.outcome w.network p))
    (htells : ∀ p ∈ f.rejected w.network, w.Tells s.path p (f.outcome w.network p)) :
    ∃ errors v, exec (Command.runSaveSettings (.ofText? f.token) (.ofText? f.key)
        (.ofText? f.model) (.ofText? f.vouchers)) w = (.ok errors, v) ∧
      w.Saves s (f.fields w.network).present (f.calls w.configuration x) v ∧
      v.Reports (f.rejected w.network) errors := by
  have htimed (p : Provider) (hp : p ∈ f.asked) : w.configuration.timeout = .ok x :=
    htimeout (List.ne_nil_of_mem hp)
  obtain ⟨tokenErrors, v, htoken, hv, hfirst⟩ := f.exec_saveArgument (p := .simpletex) hstore
    haccepts rfl (fun hp => htimed _ hp) (hnetwork _) (htells _)
  -- the key takes what the token has left on the network
  have houtcome : v.outcome = f.outcome w.network .siliconflow := by
    rw [World.outcome, hv.network, outcome, call, Option.toList_map, List.length_map]
  obtain ⟨keyErrors, u, hkey, hu, hsecond⟩ := f.exec_saveArgument (p := .siliconflow) hv.store
    (haccepts.rewritten hv.disk) houtcome (fun hp => hv.configuration ▸ htimed _ hp) (hnetwork _)
    fun hp => hv.tells (htells _ hp)
  rw [hv.configuration] at hu
  have hboth := hv.trans hu
  obtain ⟨z, hrest, hz⟩ := World.Saves.storeAll hboth.store (haccepts.rewritten hboth.disk)
    f.preferences.present
  refine ⟨tokenErrors ++ keyErrors, z, ?_, ?_, ?_⟩
  · rw [runSaveSettings_eq]
    exact (exec_bind_ok htoken _).trans ((exec_bind_ok hkey _).trans (exec_bind_ok hrest _))
  · have hfields : (f.fields w.network).present =
        Dictionary.present [(Provider.simpletex.credentialName, f.stored w.network .simpletex)] ++
          Dictionary.present
            [(Provider.siliconflow.credentialName, f.stored w.network .siliconflow)] ++
          f.preferences.present := by
      rw [← Dictionary.present_append, ← Dictionary.present_append]
      rfl
    rw [hfields, calls, filterMap_all]
    simpa only [List.append_nil] using hboth.trans hz
  · rw [rejected_eq]
    simpa using (hfirst.append hu.keeps hsecond).append hz.keeps (.inl ⟨rfl, rfl⟩)

end Submission

/-! What stands in the store afterwards. -/

namespace Submission

variable (f : Submission)

theorem nodup_fields (network : List Outcome) : (f.fields network).keys.Nodup := by
  have hkeys : (f.fields network).keys = Store.savedNames := rfl
  rw [hkeys]
  decide

theorem sound_fields (network : List Outcome) :
    ∀ entry ∈ (f.fields network).present, entry.2.Sound := by
  intro entry hentry
  obtain ⟨⟨name, value⟩, hfield, hvalue⟩ := List.mem_filterMap.1 hentry
  obtain ⟨j, rfl, rfl⟩ := Option.map_eq_some_iff.1 hvalue
  suffices hplain : j.Plain from hplain.everywhere
  rcases List.mem_append.1 hfield with hcredential | hpreference
  · obtain ⟨p, -, hp⟩ := List.mem_map.1 hcredential
    obtain ⟨text, -, rfl⟩ := Option.map_eq_some_iff.1 (Prod.mk.inj hp).2
    exact .text _
  · simp only [preferences, List.mem_cons, Prod.mk.injEq, List.not_mem_nil, or_false] at hpreference
    rcases hpreference with ⟨-, hmodel⟩ | ⟨-, hvouchers⟩
    · obtain ⟨text, -, rfl⟩ := Option.map_eq_some_iff.1 hmodel.symm
      exact .text _
    · obtain ⟨text, -, rfl⟩ := Option.map_eq_some_iff.1 hvouchers.symm
      exact .texts _

/-- What is found under a name afterwards: what is stored there, else what was there. -/
theorem get?_saved (s : Store) (network : List Outcome) (name : String) :
    Store.get? { s with values := s.values.merge (f.fields network).present } name =
      ((f.fields network).find? name).join.or (s.get? name) := by
  have hnodup := f.nodup_fields network
  rw [Store.get?, Dictionary.find?_merge _ (hnodup.sublist (Dictionary.keys_present _)),
    Dictionary.find?_present hnodup]
  rfl

theorem toJson_saved {errors : List String} (h : errors ≠ []) :
    (Reply.saved errors).toJson = .obj [("ok", .bool false), ("errors", .texts errors)] := by
  cases errors with
  | nil => exact absurd rfl h
  | cons error errors => rfl

end Submission

/-- Saving settings with a store that can be written. Each credential that is given is validated by
one call, and stored if it is accepted and cleared if it is rejected; a model and vouchers that are
given are stored as such. What stands under a name afterwards depends on its own field alone, on
the verdict on it and on what stood there. All is well if no credential was rejected, and otherwise
there is an error for each in turn. A file that held the settings holds them again. For this a
credential needs a time to wait, and a rejection the words to tell of it. -/
theorem saveSettings_fields {w : World} {s : Store} (hstore : w.store = some s)
    (hwrites : ∀ text, (exec (writeFile s.path text) w).1 = .ok ()) (f : Submission)
    {x : Binary64} (htimeout : f.asked ≠ [] → w.configuration.timeout = .ok x)
    (hnetwork : ∀ p ∈ f.asked, FromNetwork (f.outcome w.network p))
    (htells : ∀ p ∈ f.rejected w.network, w.Tells s.path p (f.outcome w.network p)) :
    ∃ reply s' v,
      exec f.command.run w = (.ok reply, v) ∧ v.store = some s' ∧ s'.path = s.path ∧
      v.calls = w.calls ++ f.calls w.configuration x ∧
      (∀ p, s'.get? p.credentialName =
        ((f.credential p).map fun text => .str (if f.granted w.network p then text else "")).or
          (s.get? p.credentialName)) ∧
      s'.get? Store.modelName = (f.model.map .str).or (s.get? Store.modelName) ∧
      s'.get? Store.vouchersName =
        (f.vouchers.map fun text => .texts (Command.voucherModels text)).or
          (s.get? Store.vouchersName) ∧
      (∀ name ∉ Store.savedNames, s'.get? name = s.get? name) ∧
      (f.rejected w.network = [] → reply.toJson = .obj [("ok", .bool true)]) ∧
      (f.rejected w.network ≠ [] → ∃ t, w.MaySpeak s.path (.ok t) ∧
        reply.toJson = .obj [("ok", .bool false),
          ("errors", .texts ((f.rejected w.network).map fun p => t.textOf p.rejection))]) ∧
      (s.HeldIn w.disk → s'.HeldIn v.disk) := by
  have haccepts := accepts_of_writeFile (hwrites [])
  obtain ⟨errors, v, hexec, hsaves, hreports⟩ :=
    f.exec_runSaveSettings hstore haccepts htimeout hnetwork htells
  have hfound := f.get?_saved s w.network
  refine ⟨.saved errors, _, v, exec_bind_ok hexec _, hsaves.store, rfl, hsaves.calls, fun p => ?_,
    hfound _, hfound _, fun name hname => ?_, fun hnone => ?_, fun hsome => ?_,
    hsaves.heldIn (f.sound_fields w.network)⟩
  · rw [hfound]
    cases p <;> rfl
  · have hnot : name ∉ (f.fields w.network).keys := hname
    rw [hfound, Dictionary.find?_of_notMem hnot]
    rfl
  · rcases hreports with ⟨-, rfl⟩ | ⟨t, -, rfl⟩
    · rfl
    · rw [hnone]
      rfl
  · rcases hreports with ⟨hnone, -⟩ | ⟨t, ht, rfl⟩
    · exact absurd hnone hsome
    · have hspeaks := hsaves.speaks _ (World.maySpeak_now v s.path)
      rw [ht.translator] at hspeaks
      exact ⟨t, hspeaks, Submission.toJson_saved (by simpa using hsome)⟩

/-- Settings with a token and a model. -/
def tokenSettings : Dictionary Json :=
  [(Store.tokenName, .str "old"), (Store.keyName, .str ""), (Store.vouchersName, .texts []),
   (Store.modelName, .str "simpletex_ocr")]

/-- A service in English with these settings, in memory and in a file. It is about to be told that
the first credential is bad and that the second one is good. -/
def validating : World :=
  { Recognition.answering with
    disk := ((install ⟨[]⟩).put ["data"] .directory).put ["data", "config.json"]
      (.file (Encoding.Utf8.encode (Store.fileText tokenSettings)))
    network := [.response ⟨401, []⟩, .response ⟨200, []⟩]
    store := some ⟨Path.child ⟨"/", ["data"]⟩ Store.filename, tokenSettings⟩ }

/-- Two credentials, no model and one voucher. -/
def replacement : Submission :=
  { token := some "bad", key := some "sk", model := some "", vouchers := some "Qwen/Qwen-VL\nnone" }

theorem accepts_validating :
    validating.disk.Accepts (Path.child ⟨"/", ["data"]⟩ Store.filename) :=
  ⟨eq_ok_of_toOption (by decide +kernel), ["data", "config.json"],
    eq_ok_of_toOption (by decide +kernel), by decide +kernel⟩

theorem tells_inEnglish (p : Provider) (o : Outcome) : inEnglish.Tells p o where
  text j hj := by
    have htext : ((inEnglish.messages.find? p.rejection).bind Json.text?).isSome = true := by
      cases p <;> decide +kernel
    rw [hj] at htext
    obtain ⟨text, hj⟩ := Option.isSome_iff_exists.1 htext
    exact ⟨text, Json.eq_of_text? hj⟩
  failed i _ := complete_inEnglish "errors.request_failed" ["detail"] (by decide) _ rfl

/-- The table for English is not the file of the settings. -/
theorem eq_of_maySpeak_english {w : World} {dir : Path} {spoken : Except Crash Translator}
    (hinstalled : Installed w.disk) (hlanguage : w.configuration.language = "en")
    (hkept : w.translators = []) (h : w.MaySpeak (dir.child Store.filename) spoken) :
    spoken = .ok inEnglish := by
  have hsettled : Settled [Store.filename] w.disk "en" := hinstalled.settled (by decide)
  rw [World.eq_of_maySpeak hsettled (hlanguage ▸ hsettled) h, World.translator, hlanguage, hkept]
  exact load_english hinstalled

theorem sound_tokenSettings : (Json.obj tokenSettings).Sound := by
  simp [tokenSettings, Json.Sound, Json.Everywhere, Json.EverywhereMembers, Json.EverywhereItems,
    Json.texts, Dictionary.keys, Store.tokenName, Store.keyName, Store.vouchersName,
    Store.modelName]

theorem heldIn_validating :
    Store.HeldIn ⟨Path.child ⟨"/", ["data"]⟩ Store.filename, tokenSettings⟩ validating.disk := by
  have hread : validating.disk.read (Path.child ⟨"/", ["data"]⟩ Store.filename) =
      .ok (Encoding.Utf8.encode (Store.fileText tokenSettings)) := rfl
  rw [Store.HeldIn]
  dsimp only
  rw [contentOf_written sound_tokenSettings hread]
  exact List.Perm.refl _

/-- The token is cleared, and all else is stored. -/
theorem saveSettings_fields_replacement :
    ∃ reply s' v, exec replacement.command.run validating = (.ok reply, v) ∧
      v.store = some s' ∧
      reply.toJson = .obj [("ok", .bool false),
        ("errors", .texts ["SimpleTex token is invalid and has been cleared"])] ∧
      s'.get? Store.tokenName = some (.str "") ∧ s'.get? Store.keyName = some (.str "sk") ∧
      s'.get? Store.modelName = some (.str "") ∧
      s'.get? Store.vouchersName = some (.texts ["Qwen/Qwen-VL"]) ∧ s'.HeldIn v.disk := by
  have htimeout : validating.configuration.timeout =
      .ok (.finite false (120 * Binary64.unitsPerOne)) := eq_ok_of_toOption (by decide +kernel)
  have hspeaks {spoken : Except Crash Translator} (h : validating.MaySpeak
      (Path.child ⟨"/", ["data"]⟩ Store.filename) spoken) : spoken = .ok inEnglish :=
    eq_of_maySpeak_english ⟨rfl, rfl⟩ (by decide +kernel) rfl h
  have hrejected : replacement.rejected validating.network = [.simpletex] := by decide +kernel
  have htoken : replacement.granted validating.network .simpletex = false := by decide +kernel
  have hkey : replacement.granted validating.network .siliconflow = true := by decide +kernel
  obtain ⟨reply, s', v, hexec, hstore, -, -, hcredentials, hmodel, hvouchers, -, -, herrors,
      hheld⟩ :=
    saveSettings_fields (w := validating) rfl (writes_of_accepts accepts_validating) replacement
      (fun _ => htimeout)
      (fun p _ => by cases p <;> trivial)
      fun p _ spoken hspoken =>
        ⟨inEnglish, hspeaks hspoken, tells_inEnglish p _⟩
  obtain ⟨t, ht, hreply⟩ := herrors (by simp [hrejected])
  obtain rfl : t = inEnglish := Except.ok.inj (hspeaks ht)
  have htext : inEnglish.textOf "settings.simpletex_token_invalid" =
      "SimpleTex token is invalid and has been cleared" := by decide +kernel
  have hids : Command.voucherModels "Qwen/Qwen-VL\nnone" = ["Qwen/Qwen-VL"] := by decide +kernel
  refine ⟨reply, s', v, hexec, hstore, ?_, (hcredentials .simpletex).trans (by rw [htoken]; rfl),
    (hcredentials .siliconflow).trans (by rw [hkey]; rfl), hmodel, hvouchers.trans ?_,
    hheld heldIn_validating⟩
  · rw [hreply, hrejected, ← htext]
    rfl
  · rw [← hids]
    rfl

/-- Whatever is sent to be saved, saving it has a result, if the store can be written and whatever
goes wrong with a call is the network. -/
def World.Resolves (w : World) : Prop :=
  ∀ s, w.store = some s → (∀ text, (exec (writeFile s.path text) w).1 = .ok ()) →
    (∀ o ∈ w.network, FromNetwork o) →
    ∀ f : Submission, ∃ reply v, exec f.command.run w = (.ok reply, v)

/-- The same service, told to wait for no number of seconds. -/
def untimed : World :=
  { validating with configuration := Recognition.mistimed.configuration }

/-- The same settings, with a table in which the message of a failed call cannot be filled in, and a
network that is down. -/
def unspeakable : World :=
  { Recognition.misworded with
    network := [.interrupted ⟨"ConnectError", "down"⟩]
    store := some ⟨Path.child ⟨"/", ["data"]⟩ Store.filename, tokenSettings⟩ }

/-- Saving a token can fail by a bad timeout, and by a message that cannot be filled in. -/
theorem not_resolves :
    (¬ ∀ w : World, (∀ s p o, w.store = some s → w.Tells s.path p o) → w.Resolves) ∧
      ¬ ∀ (w : World) (x : Binary64), w.configuration.timeout = .ok x → w.Resolves := by
  constructor
  · intro hclaim
    have hlanguage : untimed.configuration.language = "en" := by decide +kernel
    have htells (s : Store) (p : Provider) (o : Outcome) (hstore : untimed.store = some s) :
        untimed.Tells s.path p o := by
      obtain rfl := Option.some.inj hstore
      exact fun spoken hspoken =>
        ⟨inEnglish, eq_of_maySpeak_english ⟨rfl, rfl⟩ hlanguage rfl hspoken, tells_inEnglish p o⟩
    have haccepts : untimed.disk.Accepts (Path.child ⟨"/", ["data"]⟩ Store.filename) :=
      accepts_validating
    obtain ⟨reply, v, hreply⟩ := hclaim untimed htells _ rfl (writes_of_accepts haccepts)
      (by simp [untimed, validating, FromNetwork]) replacement
    have hnone : (exec replacement.command.run untimed).1.toOption.isNone = true := by
      decide +kernel
    rw [hreply] at hnone
    exact nomatch hnone
  · intro hclaim
    have htimeout : unspeakable.configuration.timeout =
        .ok (.finite false (120 * Binary64.unitsPerOne)) := eq_ok_of_toOption (by decide +kernel)
    have haccepts : unspeakable.disk.Accepts (Path.child ⟨"/", ["data"]⟩ Store.filename) :=
      ⟨eq_ok_of_toOption (by decide +kernel), ["data", "config.json"],
        eq_ok_of_toOption (by decide +kernel), by decide +kernel⟩
    have hnetwork : ∀ o ∈ unspeakable.network, FromNetwork o := by
      intro o ho
      obtain rfl := List.mem_singleton.1 ho
      exact (by decide : Interruption.isNetwork ⟨"ConnectError", "down"⟩ = true)
    obtain ⟨reply, v, hreply⟩ := hclaim unspeakable _ htimeout _ rfl (writes_of_accepts haccepts)
      hnetwork replacement
    have hnone : (exec replacement.command.run unspeakable).1.toOption.isNone = true := by
      decide +kernel
    rw [hreply] at hnone
    exact nomatch hnone

end FormulaOcr
