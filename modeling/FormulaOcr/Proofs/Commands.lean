import FormulaOcr.Proofs.Dictionary
import FormulaOcr.Proofs.Parallel
import FormulaOcr.Session

/-! Everything that a service does comes down to a few steps: it speaks through its translator,
sends calls, reads and writes its store and its counters. What agrees on a relation step by step
agrees on it command by command, frame by frame and request by request: it is coupled with itself,
and may differ in nothing. -/

namespace FormulaOcr

open FormulaOcr.Action

/-- The steps that need no store agree on a relation. -/
structure Basics (R : World → World → Prop) : Prop where
  configuration : ∀ w v, R w v → w.configuration = v.configuration
  today : ∀ w v, R w v → w.today = v.today
  browser : ∀ w v, R w v → w.browser = v.browser
  translator : Agrees R translator
  exchange : ∀ call, Agrees R (exchange call)
  opened : ∀ url w v, R w v →
    R { w with opened := w.opened ++ [url] } { v with opened := v.opened ++ [url] }
  counterPath : Agrees R counterPath
  loadUsage : Agrees R loadUsage

/-- The steps that at most read the store agree on a relation. -/
structure Reads (R : World → World → Prop) : Prop extends Basics R where
  store : ∀ w v, R w v → w.store = v.store

/-- The steps with an open store agree on a relation, as long as what is stored has a property. -/
structure Conforms (R : World → World → Prop) (V : Json → Prop) : Prop extends Reads R where
  setStored : ∀ name value, V value → Agrees R (setStored name value)
  ensureDefaults : Agrees R ensureDefaults

variable {R : World → World → Prop} {V : Json → Prop}

/-! Speaking takes no more than the translator. -/

namespace Action.Agrees

variable (h : Agrees R translator)
include h

theorem translate (key : String) (values : Dictionary Json) : Agrees R (translate key values) :=
  (Agrees.ofCrash _).bind fun _ => h.bind fun t => Agrees.ofCrash (t.translate key values)

theorem wording (key : String) (values : Dictionary Json) : Agrees R (wording key values) :=
  (h.translate key values).bind fun j => Agrees.pure j.display

theorem complain {α : Type} (c : Complaint) : Agrees R (complain c : Action α) :=
  (Agrees.ofCrash _).bind fun _ => (h.wording c.key c.values).bind fun message =>
    Agrees.throw (.failure ⟨c, message⟩)

theorem ofProblem {α : Type} (r : Except Problem α) : Agrees R (ofProblem r) := by
  cases r with
  | ok x => exact Agrees.pure x
  | error p =>
    cases p with
    | complaint c => exact h.complain c
    | crash c => exact Agrees.throw (.crash c)

end Action.Agrees

namespace Basics

theorem wording (h : Basics R) (key : String) (values : Dictionary Json) :
    Agrees R (wording key values) :=
  h.translator.wording key values

theorem complain {α : Type} (h : Basics R) (c : Complaint) : Agrees R (complain c : Action α) :=
  h.translator.complain c

theorem ofProblem {α : Type} (h : Basics R) (r : Except Problem α) : Agrees R (ofProblem r) :=
  h.translator.ofProblem r

theorem namedModels (h : Basics R) : Agrees R Command.namedModels :=
  Agrees.mapM (fun _ => (h.wording _ _).bind fun _ => Agrees.pure _) _

/-- Steps that agree are coupled with themselves. -/
theorem parallel (h : Basics R) : Parallel .same R where
  configuration w v hR := h.configuration w v hR ▸ Configuration.Akin.refl _
  address _ _ _ _ _ := trivial
  today := h.today
  browser := h.browser
  wording _ := (h.wording _ _).couples
  label hname := by
    have hsame : _ = _ := hname
    rw [hsame]
    exact (h.wording _ _).couples
  exchange hc := hc.eq_of (fun _ _ _ hsame => hsame) ▸ (h.exchange _).couples
  opened := h.opened
  counterPath := h.counterPath
  loadUsage := h.loadUsage

variable (h : Basics R)
include h

theorem usageToday (id : String) : Agrees R (usageToday id) :=
  h.parallel.usageToday id

theorem usageByModel (ids : List String) : Agrees R (usageByModel ids) :=
  h.parallel.usageByModel ids

theorem fetchBalance (key : String) : Agrees R (SiliconFlow.fetchBalance key) :=
  (h.parallel.fetchBalance rfl).agrees

theorem simpleTexRecognize (token : Json) (image modelId : String) (mode : Option String) :
    Agrees R (SimpleTex.recognize token image modelId mode) :=
  (h.parallel.simpleTexRecognize (.same token) image modelId mode).agrees

theorem displayName (id : String) : Agrees R (SimpleTex.displayName id) :=
  (h.parallel.displayName id).agrees

theorem validate (p : Provider) (credential : Json) : Agrees R (p.validate credential) :=
  (h.parallel.validate p (.same credential)).agrees

theorem runOpenLink (url : Json) : Agrees R (Command.runOpenLink url) :=
  (h.parallel.runOpenLink url).agrees

/-- Saving a credential agrees if storing it and clearing it do. -/
theorem saveCredential {name : String} {credential : Json} (p : Provider) (complaintKey : String)
    (hcleared : Agrees R (setStored name (.str "")))
    (hstored : credential ≠ .null → Agrees R (setStored name credential)) :
    Agrees R (Command.saveCredential p name complaintKey credential) :=
  (h.parallel.saveCredential p (h.wording complaintKey []).couples hcleared hstored).agrees_of
    fun _ _ hsame => forall₂_eq id hsame

/-- A recognition by SiliconFlow agrees. -/
theorem withSiliconFlow (key image : String) (mode : Mode) (modelId : String) :
    Agrees R (Recognition.withSiliconFlow key image mode modelId) :=
  (h.parallel.withSiliconFlow rfl image mode modelId).agrees

end Basics

/-- Saving settings agrees if saving each of the credentials does, and storing each of the other
settings. -/
theorem Action.Agrees.runSaveSettings {token key model : Json} (voucherText : Json)
    (htoken : Agrees R (Command.saveCredential .simpletex Store.tokenName
      "settings.simpletex_token_invalid" token))
    (hkey : Agrees R (Command.saveCredential .siliconflow Store.keyName
      "settings.siliconflow_key_invalid" key))
    (hmodel : model ≠ .null → Agrees R (setStored Store.modelName model))
    (hvouchers : ∀ ids, Agrees R (setStored Store.vouchersName (.texts ids))) :
    Agrees R (Command.runSaveSettings token key model voucherText) := by
  have hsame (errors errors' : List String) (h : errors = errors') :
      List.Forall₂ Likeness.same.words errors errors' :=
    h ▸ List.forall₂_same.2 fun _ _ => rfl
  exact (Couples.runSaveSettings voucherText (htoken.couples.mono hsame) (hkey.couples.mono hsame)
    hmodel hvouchers).agrees_of fun _ _ hlike => forall₂_eq id hlike

namespace Reads

variable (h : Reads R)
include h

theorem readStore : Agrees R Action.store :=
  Agrees.get (fun w v hR => by rw [h.store w v hR]) fun w => Agrees.pure _

theorem storedText (name : String) : Agrees R (Action.storedText name) :=
  h.readStore.bind fun s => Agrees.pure (s.text name)

theorem storedTexts (name : String) : Agrees R (Action.storedTexts name) :=
  h.readStore.bind fun s => Agrees.pure (s.texts name)

/-- Steps that agree on reading the store are coupled with themselves. -/
theorem parallelReads : ParallelReads .same R where
  toParallel := h.parallel
  credential p := (h.storedText p.credentialName).couples
  storedModel := h.storedText _
  storedVouchers := h.storedTexts _

theorem runRecognize (hcount : ∀ id, Agrees R (countRecognition id)) (image mode modelId : Json) :
    Agrees R (Command.runRecognize image mode modelId) :=
  (h.parallelReads.runRecognize hcount image mode modelId).agrees_of
    fun _ _ hlike => hlike.eq Likeness.literal_same

/-- A command that saves no settings agrees; a recognition must be known to. -/
theorem run {c : Command}
    (hsaves : ∀ token key model vouchers, c ≠ .saveSettings token key model vouchers)
    (hrecognize : ∀ image mode modelId, c = .recognize image mode modelId →
      Agrees R (Command.runRecognize image mode modelId)) : Agrees R c.run :=
  (h.parallelReads.run hsaves fun image mode modelId hc =>
    (hrecognize image mode modelId hc).couples.mono fun r _ hsame => hsame ▸ .same r).agrees_of
    fun _ _ hlike => hlike.eq Likeness.literal_same

end Reads

theorem Command.stores_true (c : Command) : c.Stores fun _ => True := by
  cases c with
  | saveSettings token key model voucherText => exact ⟨fun _ _ => trivial, fun _ _ _ => trivial⟩
  | _ => trivial

namespace Conforms

variable (h : Conforms R V)
include h

/-- Steps that agree on the open store are coupled with themselves. -/
theorem parallelStores : ParallelStores .same R V where
  toParallelReads := h.parallelReads
  setStored _ hvalue := h.setStored _ _ hvalue

/-- A command agrees; a recognition must be known to. -/
theorem run {c : Command} (hc : c.Stores V)
    (hrecognize : ∀ image mode modelId, c = .recognize image mode modelId →
      Agrees R (Command.runRecognize image mode modelId)) : Agrees R c.run :=
  (h.parallelStores.run hc fun image mode modelId hc =>
    (hrecognize image mode modelId hc).couples.mono fun r _ hsame => hsame ▸ .same r).agrees_of
    fun _ _ hlike => hlike.eq Likeness.literal_same

end Conforms

/-! Frames, requests and events, which open the store as they need it. -/

variable {R' : World → World → Prop}

/-- What follows the opening of the store need only agree where the store is open. -/
theorem Opens.bind {α : Type} (h : Opens R R') {f : Unit → Action α} (hf : Agrees R' (f ())) :
    Agrees R (openStore >>= f) :=
  (h.couples hf.couples).agrees

/-- A message with an object for its payload opens the store and runs its command. -/
theorem Channel.dispatch_asked {message : Json} {arguments : Dictionary Json} {c : Command}
    (hc : Channel.asked message = some c)
    (hpayload : (message.member "payload").orElse (.obj []) = .obj arguments) :
    Channel.dispatch message = openStore >>= fun _ => c.run := by
  unfold Channel.asked at hc
  rw [hpayload] at hc
  cases message with
  | obj members =>
    unfold Channel.dispatch
    dsimp only
    rw [hpayload]
    dsimp only
    rw [hc]
  | _ => exact nomatch hc

/-- Whatever a message may have stored has a property. -/
def Channel.Carries (V : Json → Prop) (message : Json) : Prop :=
  ∀ c, Channel.asked message = some c → c.Stores V

theorem Channel.stores_commandOf (hplain : ∀ j : Json, j.Plain → V j) {payload : Json}
    (hp : ∀ name, (payload.member name).Given V)
    {action : String} {c : Command} (hc : Channel.commandOf? action payload = some c) :
    c.Stores V := by
  unfold Channel.commandOf? at hc
  dsimp only at hc
  split at hc
  all_goals cases hc
  all_goals first
    | exact ⟨hplain, by simp only [List.forall_mem_cons]; exact ⟨hp _, hp _, hp _, by simp⟩⟩
    | exact trivial

theorem Json.Plain.everywhere {number : Binary64 → Prop} {names : List String → Prop} {j : Json}
    (h : j.Plain) : j.Everywhere number names := by
  cases h with
  | text s => simp [Json.Everywhere]
  | texts ss =>
    rw [Json.texts, Json.Everywhere, Json.everywhereItems_iff]
    intro item hitem
    obtain ⟨s, -, rfl⟩ := List.mem_map.1 hitem
    simp [Json.Everywhere]

/-- What holds everywhere in a message holds everywhere in what it may have stored. -/
theorem Channel.carries_everywhere {number : Binary64 → Prop} {names : List String → Prop}
    (hempty : names []) {message : Json} (h : message.Everywhere number names) :
    Channel.Carries (fun j => j.Everywhere number names) message := by
  have hnone : (Json.obj []).Everywhere number names := by
    simpa [Json.Everywhere, Json.EverywhereMembers, Dictionary.keys] using hempty
  intro c hc
  obtain ⟨action, -, hcommand⟩ := Option.bind_eq_some_iff.1 hc
  refine Channel.stores_commandOf (fun _ hplain => hplain.everywhere) (fun name _ => ?_) hcommand
  unfold Json.orElse
  split_ifs
  · exact Json.Everywhere.member (Json.Everywhere.member h "payload") name
  · exact Json.Everywhere.member hnone name

theorem Channel.distinct_message (frame : String) : (Channel.message frame).Distinct := by
  unfold Channel.message
  split
  · next members hread => exact Json.read_distinct hread
  · simp [Json.Distinct, Json.Everywhere]

/-- The end of a frame agrees if the command that it asks for does where the store is open. -/
theorem Basics.dispatch (h : Basics R) (hopens : Opens R R') (hcomplains : Basics R')
    {message : Json} (hrun : ∀ c, Channel.asked message = some c → Agrees R' c.run) :
    Agrees R (Channel.dispatch message) :=
  (h.parallel.dispatch hopens hcomplains.parallel fun c hc => (hrun c hc).couples).agrees

theorem Alike.answer {frame : String} (h : Agrees R (Channel.dispatch (Channel.message frame))) :
    Alike R (Channel.answer frame) := by
  apply h.run.bind
  intro result
  cases result <;> exact Alike.pure _

theorem Alike.connection {frames : List String}
    (h : ∀ frame ∈ frames, Agrees R (Channel.dispatch (Channel.message frame))) :
    Alike R (Channel.connection frames) := by
  unfold Channel.connection
  induction frames with
  | nil => exact Alike.pure []
  | cons frame frames ih =>
    rw [List.mapM_cons]
    apply (Alike.answer (h frame (by simp))).bind
    intro reply
    exact (ih fun f hmem => h f (List.mem_cons_of_mem _ hmem)).bind fun replies => Alike.pure _

/-- The steps of a service agree, those that need the store where it is open. -/
structure Serves (R R' : World → World → Prop) (V : Json → Prop) : Prop where
  basics : Basics R
  opens : Opens R R'
  conforms : Conforms R' V
  count : ∀ id, Agrees R (countRecognition id)
  countOpen : ∀ id, Agrees R' (countRecognition id)
  clock : ∀ today w v, R w v → R { w with today } { v with today }

namespace Serves

variable (h : Serves R R' V)
include h

theorem runCommand {c : Command} (hc : c.Stores V) : Agrees R' c.run :=
  h.conforms.run hc fun image mode modelId _ =>
    h.conforms.runRecognize h.countOpen image mode modelId

theorem dispatch {message : Json} (hm : Channel.Carries V message) :
    Agrees R (Channel.dispatch message) :=
  h.basics.dispatch h.opens h.conforms.toBasics fun c hc => h.runCommand (hm c hc)

theorem connection {frames : List String}
    (hf : ∀ frame ∈ frames, Channel.Carries V (Channel.message frame)) :
    Alike R (Channel.connection frames) :=
  Alike.connection fun frame hmem => h.dispatch (hf frame hmem)

/-! Requests. Their bodies hold nothing but texts and nulls. -/

omit h in
theorem value_of_fieldValue {body value : Json} {f : Rest.Field} (hnull : V .null)
    (htext : ∀ s, V (.str s)) (hdefault : V f.default)
    (hvalue : Rest.fieldValue body f = .ok value) : V value := by
  unfold Rest.fieldValue at hvalue
  dsimp only at hvalue
  split at hvalue
  · split_ifs at hvalue
    obtain rfl := Except.ok.inj hvalue
    exact hdefault
  · obtain rfl := Except.ok.inj hvalue
    exact htext _
  · split_ifs at hvalue
    obtain rfl := Except.ok.inj hvalue
    exact hnull
  · simp at hvalue

omit h in
theorem values_of_fieldValues {body : Json} (hnull : V .null) (htext : ∀ s, V (.str s))
    {fields : List Rest.Field} (hdefault : ∀ f ∈ fields, V f.default) {values : Dictionary Json}
    (hvalues : Rest.fieldValues body fields = .ok values) : ∀ entry ∈ values, V entry.2 := by
  induction fields generalizing values with
  | nil =>
    obtain rfl := Except.ok.inj hvalues
    simp
  | cons f fields ih =>
    rw [Rest.fieldValues] at hvalues
    split at hvalues
    · next value rest hvalue hrest =>
      obtain rfl := Except.ok.inj hvalues
      intro entry hentry
      rcases List.mem_cons.1 hentry with rfl | hentry
      · exact value_of_fieldValue hnull htext (hdefault f (by simp)) hvalue
      · exact ih (fun g hg => hdefault g (List.mem_cons_of_mem _ hg)) hrest entry hentry
    · simp at hvalues
    · simp at hvalues
    · simp at hvalues

omit h in
theorem member_of_entries {values : Dictionary Json} (hnull : V .null)
    (hvalues : ∀ entry ∈ values, V entry.2) (name : String) :
    V ((Json.obj values).member name) := by
  rw [Json.member, Json.member?]
  cases hfind : Dictionary.find? values name with
  | none => exact hnull
  | some value => exact hvalues _ (Dictionary.mem_of_find? hfind)

omit h in
theorem values_of_checkBody (hnull : V .null) (htext : ∀ s, V (.str s)) {fields : List Rest.Field}
    (hdefault : ∀ f ∈ fields, V f.default) {body : String} {values : Dictionary Json}
    (hbody : Rest.checkBody fields body = .ok values) : ∀ entry ∈ values, V entry.2 := by
  unfold Rest.checkBody at hbody
  split_ifs at hbody
  split at hbody
  · simp at hbody
  · simp at hbody
  · next members _ =>
    cases hvalues : Rest.fieldValues (.obj members) fields with
    | ok found =>
      rw [hvalues] at hbody
      obtain rfl := Except.ok.inj hbody
      exact values_of_fieldValues hnull htext hdefault hvalues
    | error issues =>
      rw [hvalues] at hbody
      simp [Except.mapError] at hbody
  · simp at hbody

omit h in
theorem stores_route (hplain : ∀ j : Json, j.Plain → V j) {r : Rest.Route}
    (hr : r ∈ Rest.routes) :
    (∀ fields, r.fields = some fields → ∀ f ∈ fields, f.default.Given V) ∧
      ∀ body, (∀ name, (body.member name).Given V) → (r.command body).Stores V := by
  have htext (s : String) : V (.str s) := hplain _ (.text s)
  simp only [Rest.routes, List.mem_cons, List.not_mem_nil, or_false] at hr
  rcases hr with rfl | rfl | rfl | rfl | rfl | rfl | rfl | rfl
  all_goals
    constructor
    · simp [Rest.Field.optional, Rest.Field.mandatory, Rest.Field.withDefault, Json.Given, htext]
    · intro body hbody
      first
      | exact ⟨hplain, List.forall_mem_cons.2 ⟨hbody _, List.forall_mem_cons.2
          ⟨hbody _, List.forall_mem_cons.2 ⟨hbody _, by simp⟩⟩⟩⟩
      | exact trivial

theorem perform {c : Command} (hc : c.Stores V) : Agrees R (Rest.perform c) := by
  have hopened : Agrees R (Action.openStore >>= fun _ => c.run) :=
    h.opens.bind (h.runCommand hc)
  cases c with
  | openLink url => exact (h.basics.runOpenLink url).bind fun _ => Agrees.pure _
  | _ => exact hopened

variable (hplain : ∀ j : Json, j.Plain → V j)
include hplain

theorem serve {r : Rest.Route} (hr : r ∈ Rest.routes) (body : String) : Alike R (r.serve body) := by
  obtain ⟨hdefault, hstores⟩ := stores_route hplain hr
  have hnull : Json.null.Given V := fun hne => absurd rfl hne
  unfold Rest.Route.serve
  dsimp only
  split
  · next refusal _ => exact Alike.pure _
  · next c hc =>
    suffices hstored : c.Stores V by
      apply (h.perform hstored).run.bind
      intro result
      cases result <;> exact Alike.pure _
    split at hc
    · obtain rfl := Except.ok.inj hc
      exact hstores _ (member_of_entries hnull (by simp))
    · next fields hfields =>
      cases hbody : Rest.checkBody fields body with
      | error refusal =>
        rw [hbody] at hc
        simp [Except.map] at hc
      | ok values =>
        rw [hbody] at hc
        obtain rfl := Except.ok.inj hc
        have hgiven := values_of_checkBody hnull (fun s _ => hplain _ (.text s))
          (hdefault fields hfields) hbody
        exact hstores _ (member_of_entries hnull hgiven)

theorem route (r : Rest.Request) : Alike R (Rest.route r) := by
  unfold Rest.route
  dsimp only
  split
  · split_ifs <;> exact Alike.pure _
  · next first others hfilter =>
    split
    · next found hfound =>
      have hmem := List.mem_of_find?_eq_some hfound
      rw [← hfilter] at hmem
      exact h.serve hplain (List.mem_of_mem_filter hmem) _
    · exact Alike.pure _

theorem request (r : Rest.Request) : Alike R (Rest.answer r) := by
  have hrouted (origin : String) : Alike R (do return (← Rest.route r).toOrigin origin) :=
    (h.route hplain r).bind fun a => Alike.pure _
  unfold Rest.answer
  split
  · exact h.route hplain r
  · split
    · split_ifs
      · exact Alike.pure _
      · exact hrouted _
    · exact hrouted _

/-! Events. -/

omit hplain in
theorem storeQuery {q : Session.StoreQuery} (hq : ∀ name value, q = .set name value → V value) :
    Agrees R (Session.runStore q) := by
  cases q with
  | set name value =>
    exact h.opens.bind ((h.conforms.setStored name value (hq _ _ rfl)).bind fun _ => Agrees.pure _)
  | get name => exact h.opens.bind (h.conforms.readStore.bind fun s => Agrees.pure _)
  | text name => exact h.opens.bind ((h.conforms.storedText name).bind fun s => Agrees.pure _)
  | texts name => exact h.opens.bind ((h.conforms.storedTexts name).bind fun s => Agrees.pure _)
  | ensureDefaults => exact h.opens.bind (h.conforms.ensureDefaults.bind fun _ => Agrees.pure _)

omit hplain in
theorem usageQuery (q : Session.UsageQuery) : Agrees R (Session.runUsage q) := by
  cases q with
  | increment id => exact (h.count id).bind fun _ => Agrees.pure _
  | today id => exact (h.basics.usageToday id).bind fun n => Agrees.pure _
  | byModel ids =>
    exact h.basics.counterPath.discard.bind fun _ =>
      (h.basics.usageByModel ids).bind fun counts => Agrees.pure _
  | load => exact h.basics.loadUsage.bind fun usage => Agrees.pure _

end Serves

/-- What happens to a service from outside its process and its files is left out, and so is the end
of the process. What is to be stored has a property. -/
def Session.Event.Served (V : Json → Prop) : Session.Event → Prop
  | .connection frames => ∀ frame ∈ frames, Channel.Carries V (Channel.message frame)
  | .store (.set _ value) => V value
  | .put .. | .remove .. | .configure .. | .restart => False
  | _ => True

namespace Serves

variable (h : Serves R R' V)
include h

/-- An event of a service agrees. -/
theorem event (hplain : ∀ j : Json, j.Plain → V j) {e : Session.Event} (he : e.Served V) :
    Agrees R (Session.run e) := by
  cases e with
  | connection frames => exact (Agrees.lift (h.connection he)).bind fun replies => Agrees.pure _
  | request r => exact (Agrees.lift (h.request hplain r)).bind fun a => Agrees.pure _
  | startup => exact h.opens.bind (Agrees.pure _)
  | store q =>
    apply h.storeQuery
    intro name value hq
    subst hq
    exact he
  | usage q => exact h.usageQuery q
  | paths =>
    refine h.opens.bind (h.conforms.readStore.bind fun s => ?_)
    exact h.conforms.counterPath.bind fun p => Agrees.pure _
  | clock today => exact (Agrees.modify (h.clock today)).bind fun _ => Agrees.pure _
  | put | remove | configure | restart => exact absurd he id

end Serves

end FormulaOcr
