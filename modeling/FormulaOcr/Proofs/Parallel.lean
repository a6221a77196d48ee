import FormulaOcr.Proofs.Likeness
import FormulaOcr.Proofs.Localization.Messages

/-! Two services that do the same in other words and with other credentials. If the steps of a
service are coupled, so are its commands: what they answer differs in the words of messages alone,
and what they send in the credentials. -/

namespace FormulaOcr

open FormulaOcr.Action FormulaOcr.Localization

variable {L : Likeness} {R : World → World → Prop} {α β : Type} {Q : α → β → Prop}

/-! The steps of a service. -/

/-- The steps that need no store are coupled. -/
structure Parallel (L : Likeness) (R : World → World → Prop) : Prop where
  configuration : ∀ w v, R w v → w.configuration.Akin v.configuration
  address : ∀ w v, R w v → ∀ (p : Provider) path, L.address p (p.url v.configuration path)
  today : ∀ w v, R w v → w.today = v.today
  browser : ∀ w v, R w v → w.browser = v.browser
  wording : ∀ {key values}, Message key (Dictionary.keys values) →
    Couples L R L.words (Action.wording key values) (Action.wording key values)
  label : ∀ {name name'}, L.words name name' →
    Couples L R L.words
      (Action.wording "recognition.simpletex_label" [("name", .str name)])
      (Action.wording "recognition.simpletex_label" [("name", .str name')])
  exchange : ∀ {c c'}, Call.Like L c c' → Couples L R Eq (exchange c) (exchange c')
  opened : ∀ url w v, R w v →
    R { w with opened := w.opened ++ [url] } { v with opened := v.opened ++ [url] }
  counterPath : Agrees R counterPath
  loadUsage : Agrees R loadUsage

/-- The values that settings are meant to have: texts, and lists of texts. -/
inductive Json.Plain : Json → Prop
  | text (s : String) : Plain (.str s)
  | texts (ss : List String) : Plain (.texts ss)

/-- A value has a property if it is there at all. -/
def Json.Given (V : Json → Prop) (j : Json) : Prop :=
  j ≠ .null → V j

/-- The setting that holds the credential for a provider. -/
def Provider.credentialName : Provider → String
  | .simpletex => Store.tokenName
  | .siliconflow => Store.keyName

/-- The steps that at most read the store are coupled. -/
structure ParallelReads (L : Likeness) (R : World → World → Prop) : Prop extends Parallel L R where
  credential : ∀ p : Provider,
    Couples L R (L.credential p) (storedText p.credentialName) (storedText p.credentialName)
  storedModel : Agrees R (storedText Store.modelName)
  storedVouchers : Agrees R (storedTexts Store.vouchersName)

/-- The names of the settings that a service saves. -/
def Store.settingNames : List String :=
  [tokenName, keyName, modelName, vouchersName]

/-- The steps with an open store are coupled, as long as what is stored has a property. -/
structure ParallelStores (L : Likeness) (R : World → World → Prop) (V : Json → Prop) : Prop
    extends ParallelReads L R where
  setStored : ∀ {name value}, name ∈ Store.settingNames → V value →
    Agrees R (setStored name value)

namespace Parallel

variable (h : Parallel L R)
include h

theorem complain {c : Complaint} (hc : c.Known) :
    Couples L R Q (complain c) (complain c) :=
  Couples.after (Agrees.ofCrash _) fun _ => (h.wording hc).bind fun _ _ hmessage =>
    Couples.throw (.failure c hmessage)

theorem ofComplaint {r : Except Complaint α} (hr : ∀ c, r = .error c → c.Known) :
    Couples L R Eq (ofComplaint r) (ofComplaint r) := by
  cases r with
  | ok x => exact Couples.pure rfl
  | error c => exact h.complain (hr c rfl)

theorem ofProblem {r : Except Problem α} (hr : ∀ c, r = .error (.complaint c) → c.Known) :
    Couples L R Eq (ofProblem r) (ofProblem r) := by
  cases r with
  | ok x => exact Couples.pure rfl
  | error p =>
    cases p with
    | complaint c => exact h.complain (hr c rfl)
    | crash c => exact Couples.throw (.crash c)

/-- What follows a complaint under a condition is coupled if it is without the complaint. -/
theorem guarded {c d : Prop} [Decidable c] [Decidable d] (hcd : c ↔ d) {complaint : Complaint}
    (hknown : complaint.Known) {a : Action α} {b : Action β} (hab : Couples L R Q a b) :
    Couples L R Q (if c then (do Action.complain complaint; a) else a)
      (if d then (do Action.complain complaint; b) else b) :=
  Couples.ite hcd
    (fun _ => (h.complain (Q := fun (_ _ : PUnit) => True) hknown).bind fun _ _ _ => hab)
    fun _ => hab

theorem timeout : Agrees R timeout :=
  Agrees.get (fun w v hR => by rw [(h.configuration w v hR).timeout]) fun w =>
    Agrees.ofCrash w.configuration.timeout

theorem send (p : Provider) {j j' : Json} (hj : L.Credential p j j') (verb : Verb) (path : String)
    (headers : List (String × Json)) (payload : Payload) :
    Couples L R Eq (p.send verb path j headers payload) (p.send verb path j' headers payload) := by
  apply Couples.get
  intro w v hR
  dsimp only
  -- the address is made here, before the timeout is read
  rw [(h.configuration w v hR).url]
  apply Couples.after h.timeout
  intro timeout
  apply (h.exchange (.credential hj (h.address w v hR p path) verb timeout headers payload)).bind
  rintro result _ rfl
  cases result with
  | ok response => exact Couples.pure rfl
  | error i => exact h.complain (Complaint.known_one (by decide))

theorem usageToday (id : String) : Agrees R (usageToday id) :=
  h.loadUsage.bind fun usage =>
    Agrees.get (fun w v hR => by rw [h.today w v hR]) fun w => Agrees.pure (usage.on w.today id)

theorem usageByModel (ids : List String) : Agrees R (usageByModel ids) :=
  Agrees.foldlM (fun _ id => (h.usageToday id).bind fun _ => Agrees.pure _) ids []

/-! The two services. -/

theorem ask {key key' : Json} (hkey : L.Credential .siliconflow key key')
    (imageUrl modelId prompt : String) :
    Couples L R Eq (SiliconFlow.ask key imageUrl modelId prompt)
      (SiliconFlow.ask key' imageUrl modelId prompt) := by
  apply (h.send _ hkey _ _ _ _).bind
  rintro response _ rfl
  exact h.ofProblem fun _ => SiliconFlow.known_reading

theorem fetchAccount {key key' : Json} (hkey : L.Credential .siliconflow key key') :
    Couples L R Eq (SiliconFlow.fetchAccount key) (SiliconFlow.fetchAccount key') :=
  h.send _ hkey _ _ _ _

theorem fetchBalance {key key' : String} (hkey : L.credential .siliconflow key key') :
    Couples L R Eq (SiliconFlow.fetchBalance key) (SiliconFlow.fetchBalance key') := by
  refine Couples.ite (L.empty_iff hkey) (fun _ => Couples.pure rfl) fun _ => ?_
  refine (Couples.attempt (Q := Eq) ?_).bind fun result result' hresult => ?_
  · apply (h.fetchAccount (.text hkey)).bind
    rintro response _ rfl
    refine Couples.ite Iff.rfl (fun _ => ?_) fun _ => Couples.pure rfl
    apply (h.ofProblem fun _ => known_json).bind
    rintro report _ rfl
    exact Couples.pure rfl
  · cases hresult with
    | ok hsame => exact Couples.pure hsame
    | error c _ => exact Couples.pure rfl

theorem fetchPrices : Couples L R Eq SiliconFlow.fetchPrices SiliconFlow.fetchPrices := by
  apply Couples.get
  intro w v hR
  dsimp only
  rw [(h.configuration w v hR).endpoint (by decide)]
  apply Couples.after h.timeout
  intro timeout
  apply (h.exchange (.same _)).bind
  rintro result _ rfl
  cases result <;> exact Couples.pure rfl

theorem listVisionModels {key key' : String} (hkey : L.credential .siliconflow key key') :
    Couples L R Eq (SiliconFlow.listVisionModels key) (SiliconFlow.listVisionModels key') := by
  refine Couples.ite (L.empty_iff hkey) (fun _ => Couples.pure rfl) fun _ => ?_
  refine (Couples.attempt (Q := Eq) ?_).bind fun result result' hresult => ?_
  · apply (h.send _ (.text hkey) _ _ _ _).bind
    rintro response _ rfl
    exact h.ofProblem fun _ => SiliconFlow.known_listing
  · cases hresult with
    | ok hsame =>
      rw [← hsame]
      apply h.fetchPrices.bind
      rintro prices _ rfl
      exact Couples.pure rfl
    | error c _ => exact Couples.pure rfl

theorem pricingLabel (m : SiliconFlow.Model) :
    Couples L R L.words m.pricingLabel m.pricingLabel := by
  unfold SiliconFlow.Model.pricingLabel
  cases m.pricing with
  | none => exact h.wording (by decide)
  | some p =>
    exact Couples.ite Iff.rfl (fun _ => h.wording (by decide))
      fun _ => h.wording (message_of_valued (by simp [valued, Dictionary.keys]))

theorem upload {token token' : Json} (htoken : L.Credential .simpletex token token')
    (bytes : Bytes) (modelId : String) (mode : Option String) (filename : String) :
    Couples L R Eq (SimpleTex.upload token bytes modelId mode filename)
      (SimpleTex.upload token' bytes modelId mode filename) :=
  h.send _ htoken _ _ _ _

theorem simpleTexRecognize {token token' : Json} (htoken : L.Credential .simpletex token token')
    (image modelId : String) (mode : Option String) :
    Couples L R Eq (SimpleTex.recognize token image modelId mode)
      (SimpleTex.recognize token' image modelId mode) := by
  apply (h.ofComplaint fun _ => SimpleTex.known_decodeImage).bind
  rintro bytes _ rfl
  apply (h.upload htoken _ _ _ _).bind
  rintro response _ rfl
  exact h.ofProblem fun _ => SimpleTex.known_reading

theorem modelName {m : SimpleTex.Model} (hm : m ∈ SimpleTex.models) :
    Couples L R L.words m.name m.name := by
  have hmessages : ∀ m ∈ SimpleTex.models, Message ("models.simpletex." ++ m.id) [] := by decide
  exact h.wording (hmessages m hm)

theorem namedModels :
    Couples L R (List.Forall₂ (NamedModel.Like L)) Command.namedModels Command.namedModels :=
  Couples.mapM fun _ hm => (h.modelName hm).bind fun _ _ hname => Couples.pure ⟨rfl, hname⟩

theorem providerLabel (p : Provider) : Couples L R L.words p.label p.label := by
  cases p
  · exact h.wording (by decide)
  · exact h.wording (by decide)

theorem displayName (id : String) :
    Couples L R L.words (SimpleTex.displayName id) (SimpleTex.displayName id) := by
  unfold SimpleTex.displayName
  cases hfound : SimpleTex.findModel? id with
  | some model => exact h.modelName (List.mem_of_find?_eq_some hfound)
  | none => exact Couples.pure (L.words_refl id)

theorem quotaOffer (available : Bool) {m : SimpleTex.Model} (hm : m ∈ SimpleTex.models) :
    Couples L R (QuotaOffer.Like L) (Command.quotaOffer available m)
      (Command.quotaOffer available m) := by
  apply (h.modelName hm).bind
  intro name name' hname
  apply (h.providerLabel .simpletex).bind
  intro provider provider' hprovider
  apply Couples.after (h.usageToday m.id)
  intro usage
  have hmessage : Message "pricing.free_per_day" ["count"] := by decide
  exact (h.wording hmessage).bind fun _ _ hpricing =>
    Couples.pure ⟨⟨rfl, hname⟩, hprovider, rfl, rfl, hpricing⟩

theorem pricedOffer (vouchers : List String) (m : SiliconFlow.Model) :
    Couples L R (PricedOffer.Like L) (Command.pricedOffer vouchers m)
      (Command.pricedOffer vouchers m) := by
  apply (h.providerLabel .siliconflow).bind
  intro provider provider' hprovider
  exact (h.pricingLabel m).bind fun _ _ hpricing => Couples.pure ⟨rfl, hprovider, hpricing, rfl⟩

/-! Checks of credentials. -/

omit h in
theorem reach {a : Action α} {b : Action β} (hab : Couples L R Q a b) :
    Couples L R (Tried L Q) (Action.reach a) (Action.reach b) := by
  apply hab.attempt.bind
  intro result result' hresult
  cases hresult with
  | ok hxy => exact Couples.pure (.ok hxy)
  | error c hm =>
    exact Couples.ite Iff.rfl (fun _ => Couples.pure (.error c hm))
      fun _ => Couples.throw (.failure c hm)

theorem failed {key : String} {values : Dictionary Json} (hmessage : Message key values.keys) :
    Couples L R (Probe.Like L) (Probe.failed key values) (Probe.failed key values) :=
  (h.wording hmessage).bind fun _ _ hwords => Couples.pure ⟨rfl, .some hwords, rfl⟩

theorem failed_one {key name : String} {value : Json} (hvalued : (key, [name]) ∈ valued) :
    Couples L R (Probe.Like L) (Probe.failed key [(name, value)])
      (Probe.failed key [(name, value)]) :=
  h.failed (message_of_valued hvalued)

theorem verdict (v : SimpleTex.Verdict) : Couples L R (Probe.Like L) v.report v.report := by
  cases v with
  | accepted => exact Couples.pure ⟨rfl, .none, rfl⟩
  | tokenInvalid => exact h.failed (by decide)
  | noResource => exact h.failed (by decide)
  | serverError status => exact h.failed_one (by decide)
  | code text => exact Couples.pure ⟨rfl, .some (L.words_refl text), rfl⟩
  | unknown => exact h.failed (by decide)

theorem report (r : Response) :
    Couples L R (Probe.Like L) (SimpleTex.report r) (SimpleTex.report r) := by
  apply (h.verdict _).bind
  intro told told' htold
  -- the words on the two sides are passed over together
  exact Couples.ite (by simp only [htold.error_empty_iff]) (fun _ => h.verdict _)
    fun _ => Couples.pure htold

theorem probe (p : Provider) {j j' : Json} (hj : L.Credential p j j') :
    Couples L R (Probe.Like L) (p.probe j) (p.probe j') := by
  have hmissing : (!j.isTruthy) = true ↔ (!j'.isTruthy) = true := by rw [hj.truthy]
  cases p with
  | simpletex =>
    refine Couples.ite hmissing (fun _ => h.failed (by decide)) fun _ => ?_
    apply (reach (h.upload hj _ _ _ _)).bind
    intro result result' hresult
    cases hresult with
    | error c _ => exact h.failed_one (by decide)
    | ok hsame =>
      rw [← hsame]
      exact h.report _
  | siliconflow =>
    refine Couples.ite hmissing (fun _ => h.failed (by decide)) fun _ => ?_
    apply (reach (h.fetchAccount hj)).bind
    intro result result' hresult
    cases hresult with
    | error c _ => exact h.failed_one (by decide)
    | ok hsame =>
      rw [← hsame]
      exact Couples.ite Iff.rfl (fun _ => h.failed (by decide)) fun _ =>
        Couples.ite Iff.rfl (fun _ => Couples.pure ⟨rfl, .none, rfl⟩)
          fun _ => h.failed_one (by decide)

theorem validate (p : Provider) {j j' : Json} (hj : L.Credential p j j') :
    Couples L R Eq (p.validate j) (p.validate j') := by
  cases p with
  | simpletex =>
    apply (reach (h.upload hj _ _ _ _)).bind
    intro result result' hresult
    cases hresult with
    | error c _ => exact Couples.pure rfl
    | ok hsame => exact Couples.pure (congrArg _ hsame)
  | siliconflow =>
    apply (reach (h.fetchAccount hj)).bind
    intro result result' hresult
    cases hresult with
    | error c _ => exact Couples.pure rfl
    | ok hsame => exact Couples.pure (congrArg _ hsame)

/-! Commands that need no store. -/

theorem runOpenLink (url : Json) :
    Couples L R Eq (Command.runOpenLink url) (Command.runOpenLink url) := by
  apply Couples.after (Agrees.ofCrash _)
  intro url
  apply Couples.after (Agrees.ofCrash _)
  intro scheme
  refine Couples.ite Iff.rfl (fun _ => ?_) fun _ => h.complain (Complaint.known_one (by decide))
  apply Couples.after (Agrees.modify (h.opened url))
  intro _
  exact (Agrees.get (fun w v hR => by rw [h.browser w v hR])
    fun w => Agrees.pure w.browser).couples

/-- Saving a credential is coupled if storing it and clearing it agree. -/
theorem saveCredential {name complaintKey : String} {credential : Json} (p : Provider)
    (hmessage : Couples L R L.words (Action.wording complaintKey) (Action.wording complaintKey))
    (hcleared : Agrees R (setStored name (.str "")))
    (hstored : credential ≠ .null → Agrees R (setStored name credential)) :
    Couples L R (List.Forall₂ L.words) (Command.saveCredential p name complaintKey credential)
      (Command.saveCredential p name complaintKey credential) := by
  refine Couples.ite Iff.rfl (fun _ => Couples.pure .nil) fun hsays => ?_
  have hthere : credential ≠ .null := by
    rintro rfl
    exact hsays rfl
  apply (h.validate p (.same credential)).bind
  rintro accepted _ rfl
  refine Couples.ite Iff.rfl
    (fun _ => Couples.after (hstored hthere) fun _ => Couples.pure .nil) fun _ => ?_
  exact Couples.after hcleared fun _ => hmessage.bind fun _ _ hwords =>
    Couples.pure (.cons hwords .nil)

theorem verify {key key' : String} (hkey : L.credential .siliconflow key key')
    (imageUrl modelId primary : String) :
    Couples L R Eq (Recognition.verify key imageUrl modelId primary)
      (Recognition.verify key' imageUrl modelId primary) := by
  have hcheck := h.ask (.text hkey) imageUrl modelId (Recognition.verificationPrompt primary)
  apply hcheck.attempt.bind
  intro result result' hresult
  cases hresult with
  | ok hsame =>
    rw [← hsame]
    exact Couples.pure rfl
  | error c _ => exact Couples.pure rfl

/-- A recognition by SiliconFlow is coupled. -/
theorem withSiliconFlow {key key' : String} (hkey : L.credential .siliconflow key key')
    (image : String) (mode : Mode) (modelId : String) :
    Couples L R Eq (Recognition.withSiliconFlow key image mode modelId)
      (Recognition.withSiliconFlow key' image mode modelId) := by
  unfold Recognition.withSiliconFlow
  dsimp only
  refine h.guarded (L.empty_iff hkey) (by decide) ?_
  apply (h.ask (.text hkey) _ _ _).bind
  rintro primary _ rfl
  exact Couples.ite Iff.rfl (fun _ => Couples.pure rfl) fun _ =>
    Couples.ite Iff.rfl (fun _ => h.verify hkey _ _ _) fun _ => Couples.pure rfl

/-- A recognition by SimpleTex is coupled if counting agrees. -/
theorem withSimpleTex (hcount : ∀ id, Agrees R (countRecognition id)) {token token' : String}
    (htoken : L.credential .simpletex token token') (image : String) (mode : Mode)
    (modelId : String) :
    Couples L R (Recognition.Result.Like L)
      (Recognition.withSimpleTex token image mode modelId)
      (Recognition.withSimpleTex token' image mode modelId) := by
  refine h.guarded (L.empty_iff htoken) (by decide) ?_
  apply (h.simpleTexRecognize (.text htoken) _ _ _).bind
  rintro found _ rfl
  apply Couples.after (hcount modelId)
  intro _
  exact (h.displayName modelId).bind fun _ _ hname => (h.label hname).bind fun _ _ hlabel =>
    Couples.pure (.labelled _ hlabel)

theorem recognize (hcount : ∀ id, Agrees R (countRecognition id))
    (request : Recognition.Request) {token token' key key' : String}
    (htoken : L.credential .simpletex token token')
    (hkey : L.credential .siliconflow key key') :
    Couples L R (Recognition.Result.Like L) (Recognition.recognize request ⟨token, key⟩)
      (Recognition.recognize request ⟨token', key'⟩) := by
  unfold Recognition.recognize
  dsimp only
  rw [L.there_eq htoken]
  apply (h.ofComplaint fun _ => known_select).bind
  rintro selection _ rfl
  refine h.guarded Iff.rfl (by decide) ?_
  cases selection.provider with
  | simpletex => exact h.withSimpleTex hcount htoken _ _ _
  | siliconflow =>
    exact (h.withSiliconFlow hkey _ _ _).mono fun r _ hsame => hsame ▸ .same r

end Parallel

/-! Commands that read the store. -/

namespace ParallelReads

variable (h : ParallelReads L R)
include h

theorem runGetSettings :
    Couples L R (SettingsView.Like L) Command.runGetSettings Command.runGetSettings := by
  apply (h.credential .siliconflow).bind
  intro key key' hkey
  apply (h.fetchBalance hkey).bind
  rintro balance _ rfl
  apply (h.credential .simpletex).bind
  intro token token' htoken
  apply Couples.after h.storedModel
  intro model
  apply h.namedModels.bind
  intro models models' hmodels
  apply Couples.after (h.usageByModel _)
  intro usage
  apply Couples.after h.storedVouchers
  intro vouchers
  exact Couples.pure ⟨L.there_eq hkey, L.there_eq htoken, rfl, hmodels, rfl, rfl, rfl⟩

theorem runTest (p : Provider) (credential : Json) :
    Couples L R (Probe.Like L) (Command.runTest p p.credentialName credential)
      (Command.runTest p p.credentialName credential) := by
  apply (h.credential p).bind
  intro stored stored' hstored
  refine h.probe p ?_
  unfold Json.orElse
  split_ifs
  · exact .same credential
  · exact .text hstored

theorem runAvailableModels :
    Couples L R (Offers.Like L) Command.runAvailableModels Command.runAvailableModels := by
  apply (h.credential .simpletex).bind
  intro token token' htoken
  apply (h.credential .siliconflow).bind
  intro key key' hkey
  apply Couples.after h.storedVouchers
  intro vouchers
  rw [L.there_eq htoken]
  refine (Couples.mapM fun m hm => h.quotaOffer _ hm).bind fun quota quota' hquota => ?_
  apply (h.fetchBalance hkey).bind
  rintro balance _ rfl
  apply (h.listVisionModels hkey).bind
  rintro models _ rfl
  exact (Couples.mapM fun m _ => h.pricedOffer vouchers m).bind fun priced priced' hpriced =>
    Couples.pure ⟨hquota, hpriced, rfl⟩

theorem runRecognize (hcount : ∀ id, Agrees R (countRecognition id)) (image mode modelId : Json) :
    Couples L R (Recognition.Result.Like L) (Command.runRecognize image mode modelId)
      (Command.runRecognize image mode modelId) := by
  apply Couples.after (Agrees.ofCrash _)
  intro image
  refine h.guarded Iff.rfl (by decide) ?_
  apply (h.ofComplaint fun _ => known_parse).bind
  rintro mode _ rfl
  apply Couples.after (Agrees.ofCrash _)
  intro selector
  exact (h.credential .simpletex).bind fun token token' htoken =>
    (h.credential .siliconflow).bind fun key key' hkey => h.recognize hcount _ htoken hkey

/-- A command that saves no settings is coupled; a recognition must be known to be. -/
theorem run {c : Command}
    (hsaves : ∀ token key model vouchers, c ≠ .saveSettings token key model vouchers)
    (hrecognize : ∀ image mode modelId, c = .recognize image mode modelId →
      Couples L R (Recognition.Result.Like L) (Command.runRecognize image mode modelId)
        (Command.runRecognize image mode modelId)) :
    Couples L R (Reply.Like L) c.run c.run := by
  have hready : Agrees R (discard Action.counterPath) := h.counterPath.discard
  cases c with
  | getSettings =>
    exact Couples.after hready fun _ => h.runGetSettings.bind fun _ _ hview =>
      Couples.pure (.settings hview)
  | saveSettings => exact absurd rfl (hsaves _ _ _ _)
  | testSimpleTex token =>
    exact (h.runTest .simpletex token).bind fun _ _ hprobe => Couples.pure (.probed hprobe)
  | testSiliconFlow key =>
    exact (h.runTest .siliconflow key).bind fun _ _ hprobe => Couples.pure (.probed hprobe)
  | availableModels =>
    exact Couples.after hready fun _ => h.runAvailableModels.bind fun _ _ hoffers =>
      Couples.pure (.offers hoffers)
  | balance =>
    exact (h.credential .siliconflow).bind fun key key' hkey =>
      (h.fetchBalance hkey).bind fun b _ hsame => Couples.pure (hsame ▸ .balance b)
  | recognize image mode modelId =>
    exact Couples.after hready fun _ => (hrecognize image mode modelId rfl).bind fun _ _ hresult =>
      Couples.pure (.recognized hresult)
  | openLink url =>
    exact (h.runOpenLink url).bind fun ok _ hsame => Couples.pure (hsame ▸ .opened ok)

end ParallelReads

/-! Commands that save settings. -/

/-- Saving settings is coupled if saving each of the credentials is, and storing each of the other
settings agrees. -/
theorem Action.Couples.runSaveSettings {token key model : Json} (voucherText : Json)
    (htoken : Couples L R (List.Forall₂ L.words)
      (Command.saveCredential .simpletex Store.tokenName "settings.simpletex_token_invalid" token)
      (Command.saveCredential .simpletex Store.tokenName "settings.simpletex_token_invalid" token))
    (hkey : Couples L R (List.Forall₂ L.words)
      (Command.saveCredential .siliconflow Store.keyName "settings.siliconflow_key_invalid" key)
      (Command.saveCredential .siliconflow Store.keyName "settings.siliconflow_key_invalid" key))
    (hmodel : model ≠ .null → Agrees R (setStored Store.modelName model))
    (hvouchers : ∀ ids, Agrees R (setStored Store.vouchersName (.texts ids))) :
    Couples L R (List.Forall₂ L.words) (Command.runSaveSettings token key model voucherText)
      (Command.runSaveSettings token key model voucherText) := by
  apply htoken.bind
  intro tokenErrors tokenErrors' htokens
  apply hkey.bind
  intro keyErrors keyErrors' hkeys
  have hall : List.Forall₂ L.words (tokenErrors ++ keyErrors) (tokenErrors' ++ keyErrors') :=
    List.rel_append htokens hkeys
  have hstored (text : Json) : Couples L R (List.Forall₂ L.words)
      (do
        let ids ← Action.ofCrash (Command.parseVouchers text)
        Action.setStored Store.vouchersName (.texts ids)
        return tokenErrors ++ keyErrors)
      (do
        let ids ← Action.ofCrash (Command.parseVouchers text)
        Action.setStored Store.vouchersName (.texts ids)
        return tokenErrors' ++ keyErrors') :=
    Couples.after (Agrees.ofCrash _) fun ids =>
      Couples.after (hvouchers ids) fun _ => Couples.pure hall
  cases voucherText with
  | null =>
    cases model with
    | null => exact Couples.pure hall
    | _ => exact Couples.after (hmodel (by simp)) fun _ => Couples.pure hall
  | _ =>
    cases model with
    | null => exact hstored _
    | _ => exact Couples.after (hmodel (by simp)) fun _ => hstored _

/-- Whatever a command may store has a property. -/
def Command.Stores (V : Json → Prop) : Command → Prop
  | .saveSettings token key model _ =>
    (∀ j : Json, j.Plain → V j) ∧ ∀ j ∈ [token, key, model], j.Given V
  | _ => True

namespace ParallelStores

variable {V : Json → Prop} (h : ParallelStores L R V)
include h

theorem runSaveSettings (hplain : ∀ j : Json, j.Plain → V j) {token key model : Json}
    (hgiven : ∀ j ∈ [token, key, model], j.Given V) (voucherText : Json) :
    Couples L R (List.Forall₂ L.words) (Command.runSaveSettings token key model voucherText)
      (Command.runSaveSettings token key model voucherText) := by
  have hsaved (p : Provider) {name complaintKey : String} (hname : name ∈ Store.settingNames)
      (hmessage : Message complaintKey []) {credential : Json} (hcredential : credential.Given V) :
      Couples L R (List.Forall₂ L.words) (Command.saveCredential p name complaintKey credential)
        (Command.saveCredential p name complaintKey credential) :=
    h.saveCredential p (h.wording hmessage) (h.setStored hname (hplain _ (.text "")))
      fun hthere => h.setStored hname (hcredential hthere)
  exact Couples.runSaveSettings voucherText
    (hsaved _ (by decide) (by decide) (hgiven token (by simp)))
    (hsaved _ (by decide) (by decide) (hgiven key (by simp)))
    (fun hthere => h.setStored (by decide) (hgiven model (by simp) hthere))
    fun ids => h.setStored (by decide) (hplain _ (.texts ids))

/-- A command is coupled; a recognition must be known to be. -/
theorem run {c : Command} (hc : c.Stores V)
    (hrecognize : ∀ image mode modelId, c = .recognize image mode modelId →
      Couples L R (Recognition.Result.Like L) (Command.runRecognize image mode modelId)
        (Command.runRecognize image mode modelId)) :
    Couples L R (Reply.Like L) c.run c.run := by
  cases c with
  | saveSettings token key model voucherText =>
    obtain ⟨hplain, hgiven⟩ := hc
    exact (h.runSaveSettings hplain hgiven voucherText).bind fun _ _ herrors =>
      Couples.pure (.saved herrors)
  | _ => exact h.toParallelReads.run (by simp) hrecognize

end ParallelStores

/-! Frames, which open the store as they need it. -/

/-- Opening the store leads from one relation to another one, which keeps to the first. A store that
cannot be opened leaves the first. -/
structure Opens (R R' : World → World → Prop) : Prop where
  within : ∀ w v, R' w v → R w v
  opens : ∀ w v, R w v →
    (exec openStore w).1 = (exec openStore v).1 ∧ R (exec openStore w).2 (exec openStore v).2 ∧
      ((exec openStore w).1 = .ok () → R' (exec openStore w).2 (exec openStore v).2)

variable {R' : World → World → Prop}

/-- What follows the opening of the store need only be coupled where the store is open. -/
theorem Opens.couples (h : Opens R R') {f : Unit → Action α} {g : Unit → Action β}
    (hf : Couples L R' Q (f ()) (g ())) : Couples L R Q (openStore >>= f) (openStore >>= g) := by
  intro w v hR
  have h' := h.opens w v hR
  rw [exec_bind, exec_bind]
  generalize exec openStore w = left at h'
  generalize exec openStore v = right at h'
  obtain ⟨result, w'⟩ := left
  obtain ⟨result', v'⟩ := right
  obtain ⟨hresult, hleft, hopen⟩ := h'
  obtain rfl : result = result' := hresult
  cases result with
  | ok u =>
    obtain ⟨hends, hlast⟩ := hf w' v' (hopen rfl)
    exact ⟨hends, h.within _ _ hlast⟩
  | error e => exact ⟨.error (Fault.Like.refl e), hleft⟩

theorem Opens.paired {P P' P₁ P₁' : World → Prop} (h : Opens R R') (hP : Opens (Only P) (Only P₁))
    (hP' : Opens (Only P') (Only P₁')) : Opens (Paired R P P') (Paired R' P₁ P₁') where
  within w v hR' :=
    ⟨h.within w v hR'.1, (hP.within w w ⟨rfl, hR'.2.1⟩).2, (hP'.within v v ⟨rfl, hR'.2.2⟩).2⟩
  opens w v hR := by
    obtain ⟨hresult, hleft, hopen⟩ := h.opens w v hR.1
    obtain ⟨-, hw, hwopen⟩ := hP.opens w w ⟨rfl, hR.2.1⟩
    obtain ⟨-, hv, hvopen⟩ := hP'.opens v v ⟨rfl, hR.2.2⟩
    exact ⟨hresult, ⟨hleft, hw.2, hv.2⟩, fun hok =>
      ⟨hopen hok, (hwopen hok).2, (hvopen (hresult ▸ hok)).2⟩⟩

/-- The command that a message asks for. -/
def Channel.asked (message : Json) : Option Command :=
  (message.member "action").text?.bind
    (Channel.commandOf? · ((message.member "payload").orElse (.obj [])))

/-- The end of a frame is coupled if the command that it asks for is where the store is open. -/
theorem Parallel.dispatch (h : Parallel L R) (hopens : Opens R R') (hcomplains : Parallel L R')
    {Q : Reply → Reply → Prop} {message : Json}
    (hrun : ∀ c, Channel.asked message = some c → Couples L R' Q c.run c.run) :
    Couples L R Q (Channel.dispatch message) (Channel.dispatch message) := by
  unfold Channel.dispatch
  split
  · dsimp only
    split
    · refine hopens.couples ?_
      split
      · next c hc => exact hrun c hc
      · exact hcomplains.complain (Complaint.known_one (by decide))
    · exact h.complain (by decide)
  · exact h.complain (by decide)

theorem Action.Couples.answer {frame : String}
    (h : Couples L R (Reply.Like L) (Channel.dispatch (Channel.message frame))
      (Channel.dispatch (Channel.message frame))) :
    Matches R (Channel.Like L) (Channel.answer frame) (Channel.answer frame) := by
  apply h.run.bind
  intro result result' hends
  cases hends with
  | ok hreply => exact Matches.pure (.success _ hreply)
  | error he => exact Matches.pure (.refusal _ he)

theorem Action.Couples.connection {frames : List String}
    (h : ∀ frame ∈ frames, Couples L R (Reply.Like L) (Channel.dispatch (Channel.message frame))
      (Channel.dispatch (Channel.message frame))) :
    Matches R (List.Forall₂ (Channel.Like L)) (Channel.connection frames)
      (Channel.connection frames) :=
  Matches.mapM fun frame hmem => (h frame hmem).answer

end FormulaOcr
