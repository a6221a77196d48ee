import FormulaOcr.Proofs.Rest.Surfaces
import FormulaOcr.Proofs.Store.Typing

/-! Which lists of models end in a crash. A list that cannot be had counts as empty, whatever is
wrong with the call and with the answer, with one exception: the answer can be an object in which a
number or `true` stands where the list should be. -/

namespace FormulaOcr

open FormulaOcr.Action FormulaOcr.Localization

namespace SiliconFlow

/-- A value that says something and holds no entries. -/
inductive Lone : Json → Prop
  | yes : Lone (.bool true)
  | int {n : ℤ} (h : n ≠ 0) : Lone (.int n)
  | float {x : Binary64} (h : x.isZero = false) : Lone (.float x)

/-- A successful answer that is an object with some data. -/
def Brings (r : Response) (data : Json) : Prop :=
  r.isSuccess = true ∧ ∃ members, Response.jsonOfBytes r.body = .ok (.obj members) ∧
    data = (Json.obj members).member "data"

/-- What is answered is an object whose data is a list. -/
def Lists : Outcome → Prop
  | .response r => ∃ entries, Brings r (.arr entries)
  | .interrupted _ => False

/-- What is answered is an object whose data is a value that cannot be gone through. -/
def Breaks : Outcome → Prop
  | .response r => ∃ data, Brings r data ∧ Lone data
  | .interrupted _ => False

/-- The ids in an answer: some if its data is a list, and none unless its data breaks them off. -/
theorem modelIds_cases (payload : Json) :
    (∃ ids, modelIds payload = .ok ids ∧
        ((∃ entries, payload.member "data" = .arr entries) ∨ ids = []) ∧
        ¬ Lone (payload.member "data")) ∨
      (∃ kind, modelIds payload = .error (.crash (.notIterable kind))) ∧
        Lone (payload.member "data") := by
  unfold modelIds
  dsimp only
  generalize payload.member "data" = data
  cases hsays : data.isTruthy with
  | false =>
    refine .inl ⟨[], rfl, .inr rfl, fun hlone => ?_⟩
    cases hlone with
    | yes => simp [Json.isTruthy] at hsays
    | int h => simp [Json.isTruthy, h] at hsays
    | float h => simp [Json.isTruthy, h] at hsays
  | true =>
    have hnot : ¬ (!true) = true := by decide
    rw [if_neg hnot]
    cases data with
    | null => simp [Json.isTruthy] at hsays
    | bool b =>
      obtain rfl : b = true := hsays
      exact .inr ⟨⟨_, rfl⟩, .yes⟩
    | int n =>
      have hn : n ≠ 0 := by simpa [Json.isTruthy] using hsays
      exact .inr ⟨⟨_, rfl⟩, .int hn⟩
    | float x =>
      have hx : x.isZero = false := by simpa [Json.isTruthy] using hsays
      exact .inr ⟨⟨_, rfl⟩, .float hx⟩
    | str s => exact .inl ⟨[], rfl, .inr rfl, fun hlone => by cases hlone⟩
    | arr entries => exact .inl ⟨_, rfl, .inl ⟨entries, rfl⟩, fun hlone => by cases hlone⟩
    | obj members => exact .inl ⟨[], rfl, .inr rfl, fun hlone => by cases hlone⟩

section Successful

variable {r : Response} {answer data : Json} (hsuccess : r.isSuccess = true)
  (hbody : Response.jsonOfBytes r.body = .ok answer)
include hsuccess hbody

/-- Data that is there is a member of the answer. -/
theorem brings_iff (hne : data ≠ .null) : Brings r data ↔ data = answer.member "data" := by
  constructor
  · rintro ⟨-, members, hmembers, hdata⟩
    rwa [Except.ok.inj (hbody.symm.trans hmembers)]
  · intro hdata
    cases answer with
    | obj members => exact ⟨hsuccess, members, hbody, hdata⟩
    | _ => exact absurd hdata hne

theorem lists_iff : Lists (.response r) ↔ ∃ entries, answer.member "data" = .arr entries := by
  simp only [Lists, brings_iff hsuccess hbody (Json.noConfusion : Json.arr _ ≠ .null), eq_comm]

theorem breaks_iff : Breaks (.response r) ↔ Lone (answer.member "data") := by
  constructor
  · rintro ⟨data, hdata, hlone⟩
    rwa [← (brings_iff hsuccess hbody (by rintro rfl; cases hlone)).1 hdata]
  · intro hlone
    have hne : answer.member "data" ≠ .null := by
      intro hnull
      rw [hnull] at hlone
      cases hlone
    exact ⟨_, (brings_iff hsuccess hbody hne).2 rfl, hlone⟩

end Successful

/-- What a response comes to: ids, something to complain of, or a crash if it breaks the list. -/
theorem listing_cases (r : Response) :
    (∃ ids, listing r = .ok ids ∧ (Lists (.response r) ∨ ids = []) ∧ ¬ Breaks (.response r)) ∨
      (∃ c, listing r = .error (.complaint c) ∧ c.Listed ∧ ¬ Lists (.response r) ∧
        ¬ Breaks (.response r)) ∨
      (∃ kind, listing r = .error (.crash (.notIterable kind))) ∧ Breaks (.response r) := by
  unfold listing payload Response.json
  by_cases hsuccess : r.isSuccess = true
  · rw [hsuccess, if_pos rfl]
    cases hbody : Response.jsonOfBytes r.body with
    | error f =>
      have hlisted : (Complaint.badResponse f.message).Listed :=
        (Complaint.known_one (by decide)).listed
      refine .inr (.inl ⟨.badResponse f.message, rfl, hlisted, ?_, ?_⟩)
      · rintro ⟨entries, -, members, hmembers, -⟩
        simp [hbody] at hmembers
      · rintro ⟨data, ⟨-, members, hmembers, -⟩, -⟩
        simp [hbody] at hmembers
    | ok answer =>
      rw [lists_iff hsuccess hbody, breaks_iff hsuccess hbody]
      change (∃ ids, modelIds answer = _ ∧ _) ∨ (∃ c, modelIds answer = _ ∧ _) ∨
        (∃ kind, modelIds answer = _) ∧ _
      rcases modelIds_cases answer with hids | hcrash
      · exact .inl hids
      · exact .inr (.inr hcrash)
  · rw [if_neg hsuccess]
    refine .inr (.inl ⟨refusal r, rfl, (known_refusal r).listed, ?_, ?_⟩)
    · exact fun ⟨_, hbrings⟩ => hsuccess hbrings.1
    · exact fun ⟨_, hbrings, _⟩ => hsuccess hbrings.1

end SiliconFlow

/-- A world in which calls come to an answer or to something to complain of. -/
structure World.Asks (w : World) (t : Translator) : Prop where
  timeout : ∃ x, w.configuration.timeout = .ok x
  translator : w.translator = .ok t
  network : ∀ o ∈ w.network, SiliconFlow.FromNetwork o

/-- A world in which, besides, the counters are chosen. -/
def World.Offers (w : World) (t : Translator) : Prop :=
  w.Asks t ∧ w.counterPath.isSome = true

theorem asking_asks (t : Translator) : Asking t (·.Asks t) where
  timeout _ hw := hw.timeout
  translator _ hw := hw.translator
  network _ hw := (SiliconFlow.fromNetwork_taken hw.network).1
  spoken w hw := by
    have htranslator := (translator_spoken w).trans hw.translator
    obtain ⟨kept, hspoken⟩ := World.spoken_eq w
    rw [hspoken] at htranslator ⊢
    exact ⟨hw.timeout, htranslator, hw.network⟩
  called _ _ hw := ⟨hw.timeout, hw.translator, (SiliconFlow.fromNetwork_taken hw.network).2⟩

theorem asking_offers (t : Translator) : Asking t (·.Offers t) where
  timeout w hw := (asking_asks t).timeout w hw.1
  translator w hw := (asking_asks t).translator w hw.1
  network w hw := (asking_asks t).network w hw.1
  spoken w hw := by
    refine ⟨(asking_asks t).spoken w hw.1, ?_⟩
    obtain ⟨kept, hspoken⟩ := World.spoken_eq w
    rw [hspoken]
    exact hw.2
  called w call hw := ⟨(asking_asks t).called w call hw.1, hw.2⟩

namespace Action

open SiliconFlow

variable {t : Translator} (ht : t.Complete) {P : World → Prop} (hP : Asking t P)
include ht hP

omit ht in
/-- Prices are always got, if only an empty list of them. -/
theorem settles_fetchPrices : Settles P fetchPrices := by
  intro w hw
  obtain ⟨x, htimeout⟩ := hP.timeout w hw
  unfold fetchPrices
  rw [exec_bind, exec_get]
  dsimp only
  rw [exec_bind_ok (exec_timeout htimeout), exec_bind, exec_exchange]
  generalize hcall : Call.mk _ _ _ _ _ = call
  have hnetwork := hP.network w hw
  have hcalled := hP.called w call hw
  cases htaken : (taken w.network).1 with
  | response r => exact ⟨_, _, rfl, hcalled⟩
  | interrupted i =>
    have hi : i.isNetwork = true := by rwa [htaken] at hnetwork
    rw [givenBack, if_pos hi]
    exact ⟨_, _, rfl, hcalled⟩

/-- A request for models takes the outcome that the network holds ready. If this breaks the list
the request crashes; otherwise it comes to ids, or fails. -/
theorem exec_listModelIds {w : World} (hw : P w) (key : Json) :
    ∃ result v, exec (listModelIds key) w = (result, v) ∧ P v ∧
      ((∃ ids, result = .ok ids ∧ (Lists (taken w.network).1 ∨ ids = []) ∧
          ¬ Breaks (taken w.network).1) ∨
        (∃ f, result = .error (.failure f) ∧ ¬ Lists (taken w.network).1 ∧
          ¬ Breaks (taken w.network).1) ∨
        (∃ kind, result = .error (.crash (.notIterable kind))) ∧ Breaks (taken w.network).1) := by
  obtain ⟨v, hv, -, hsent⟩ := exec_send_asking ht hP hw .siliconflow .get "models" key []
    (.query [("sub_type", "chat")])
  unfold listModelIds
  cases htaken : (taken w.network).1 with
  | interrupted i =>
    rw [htaken] at hsent
    rw [exec_bind_error hsent]
    exact ⟨_, v, rfl, hv, .inr (.inl ⟨_, rfl, id, id⟩)⟩
  | response r =>
    rw [htaken] at hsent
    rw [exec_bind_ok hsent]
    rcases listing_cases r with ⟨ids, hids, h⟩ | ⟨c, hc, hlisted, h⟩ | ⟨⟨kind, hkind⟩, h⟩
    · rw [hids]
      exact ⟨_, v, rfl, hv, .inl ⟨ids, rfl, h⟩⟩
    · rw [hc]
      exact ⟨_, _, exec_complain_listed ht (hP.translator v hv) hlisted, hP.spoken v hv,
        .inr (.inl ⟨_, rfl, h⟩)⟩
    · rw [hkind]
      exact ⟨_, v, rfl, hv, .inr (.inr ⟨⟨kind, rfl⟩, h⟩)⟩

/-- The catalog crashes if its list breaks off. Otherwise it comes to models, and to none without a
list. -/
theorem exec_listVisionModels {w : World} (hw : P w) {key : String} (hkey : key ≠ "")
    (prices : Option (Dictionary Pricing)) :
    (∃ models v, exec (listVisionModels key prices) w = (.ok models, v) ∧ P v ∧
        (Lists (taken w.network).1 ∨ models = []) ∧ ¬ Breaks (taken w.network).1) ∨
      (∃ kind, (exec (listVisionModels key prices) w).1 = .error (.crash (.notIterable kind))) ∧
        Breaks (taken w.network).1 := by
  obtain ⟨result, v, hexec, hv, hends⟩ := exec_listModelIds ht hP hw (.str key)
  have hattempt := exec_attempt (listModelIds (.str key)) w
  unfold listVisionModels
  rw [if_neg hkey]
  rcases hends with ⟨ids, rfl, hlists, hbreaks⟩ | ⟨f, rfl, -, hbreaks⟩ | ⟨⟨kind, rfl⟩, hbreaks⟩
  · rw [hexec] at hattempt
    rw [exec_bind_ok hattempt]
    left
    have hempty (prices : Dictionary Pricing) (h : ids = []) : catalog ids prices = [] := by
      rw [h, catalog, List.filterMap_nil, List.mergeSort_nil]
    cases prices with
    | some prices => exact ⟨_, v, rfl, hv, hlists.imp_right (hempty prices), hbreaks⟩
    | none =>
      obtain ⟨prices, u, hprices, hu⟩ := settles_fetchPrices hP v hv
      dsimp only
      rw [exec_bind_ok hprices]
      exact ⟨_, u, rfl, hu, hlists.imp_right (hempty prices), hbreaks⟩
  · rw [hexec] at hattempt
    rw [exec_bind_ok hattempt]
    exact .inl ⟨[], v, rfl, hv, .inr rfl, hbreaks⟩
  · rw [hexec] at hattempt
    rw [exec_bind_error hattempt]
    exact .inr ⟨⟨kind, rfl⟩, hbreaks⟩

/-! The list that is shown to the user. -/

omit ht hP in
theorem agrees_translator_network (outcomes : List Outcome) :
    Agrees (Only (·.network = outcomes)) translator :=
  agrees_only.2 fun w hw => by
    rw [exec_translator]
    exact w.network_spoken.trans hw

/-- A balance is always got, if only none, and takes one outcome. -/
theorem exec_fetchBalance {w : World} (hw : P w) {key : String} (hkey : key ≠ "") :
    ∃ balance v, exec (fetchBalance key) w = (.ok balance, v) ∧ P v ∧
      v.network = (taken w.network).2 := by
  obtain ⟨balance, v, hexec, hv⟩ := settles_fetchBalance ht hP key w hw
  refine ⟨balance, v, hexec, hv, ?_⟩
  have hafter (r : Response) : Agrees (Only (·.network = (taken w.network).2)) (do
      if r.isSuccess then
        return some (Balance.ofReport (← Action.ofProblem r.json))
      else return none) :=
    Agrees.ite (fun _ => ((agrees_translator_network _).ofProblem r.json).bind
      fun report => Agrees.pure _) fun _ => Agrees.pure none
  obtain ⟨u, -, hu, hsent⟩ := exec_send_asking ht hP hw .siliconflow .get "user/info" (.str key) []
    .nothing
  have hkept : Leads (fetchBalance key) w (fun _ v => v.network = (taken w.network).2)
      fun _ => True := by
    unfold fetchBalance
    rw [if_neg hkey]
    refine Leads.bind (Q := fun _ v => v.network = (taken w.network).2) ?_ fun result x hx => ?_
    · refine Leads.of_exec (exec_attempt _ w) ?_ fun _ _ => trivial
      rw [exec_bind]
      unfold fetchAccount
      rw [hsent]
      cases (taken w.network).1 with
      | interrupted i => exact fun _ _ => hu
      | response r =>
        have hnetwork := agrees_only.1 (hafter r) u hu
        dsimp only
        generalize exec _ u = done at hnetwork ⊢
        obtain ⟨result, x⟩ := done
        cases result with
        | ok balance => exact fun _ _ => hnetwork
        | error e => cases e <;> exact fun _ _ => hnetwork
    · cases result <;> exact Leads.pure hx
  exact hkept.result balance v hexec

omit hP in
/-- An offer of a model of SimpleTex takes no outcome. -/
theorem settles_quotaOffer (outcomes : List Outcome) (available : Bool) (m : SimpleTex.Model) :
    Settles (fun w => w.Offers t ∧ w.network = outcomes) (Command.quotaOffer available m) := by
  have hworded {key : String} {values : Dictionary Json}
      (h : values = [] ∨ (key, values.keys) ∈ valued) :
      Settles (fun w => w.Offers t ∧ w.network = outcomes) (wording key values) :=
    settles_wording ht (fun w hw => ⟨hw.1.1.translator, (asking_offers t).spoken w hw.1,
      w.network_spoken.trans hw.2⟩) h
  have hcounted : Settles (fun w => w.Offers t ∧ w.network = outcomes) (usageToday m.id) := by
    intro w hw
    obtain ⟨p, hpath⟩ := Option.isSome_iff_exists.1 hw.1.2
    exact ⟨_, w, exec_usageToday hpath m.id, hw⟩
  have hlisted : ("pricing.free_per_day", ["count"]) ∈ valued := by decide
  exact (hworded (.inl rfl)).bind fun name => (hworded (.inl rfl)).bind fun provider =>
    hcounted.bind fun usageToday => (hworded (.inr hlisted)).bind fun pricing => Settles.pure _

omit ht hP in
theorem quotaOffer_model {available : Bool} {m : SimpleTex.Model} {w v : World} {o : QuotaOffer}
    (h : exec (Command.quotaOffer available m) w = (.ok o, v)) : o.named.model = m := by
  obtain ⟨name, _, -, h⟩ := exec_bind_eq_ok h
  obtain ⟨provider, _, -, h⟩ := exec_bind_eq_ok h
  obtain ⟨usageToday, _, -, h⟩ := exec_bind_eq_ok h
  obtain ⟨pricing, _, -, h⟩ := exec_bind_eq_ok h
  obtain ⟨ho, -⟩ := Prod.mk.inj h
  rw [← Except.ok.inj ho]

omit ht hP in
/-- What each result tells of its own argument, all results tell of theirs. -/
theorem map_of_mapM {α β : Type} {f : α → Action β} {g : β → α}
    (hf : ∀ {x w y v}, exec (f x) w = (.ok y, v) → g y = x) {xs : List α} {ys : List β}
    {w v : World} (h : exec (xs.mapM f) w = (.ok ys, v)) : ys.map g = xs := by
  induction xs generalizing w v ys with
  | nil =>
    obtain ⟨hys, -⟩ := Prod.mk.inj h
    rw [← Except.ok.inj hys]
    rfl
  | cons x xs ih =>
    rw [List.mapM_cons] at h
    obtain ⟨y, w₁, hy, h⟩ := exec_bind_eq_ok h
    obtain ⟨rest, w₂, hrest, h⟩ := exec_bind_eq_ok h
    obtain ⟨hys, -⟩ := Prod.mk.inj h
    rw [← Except.ok.inj hys, List.map_cons, hf hy, ih hrest]

theorem settles_pricedOffer (vouchers : List String) (m : SiliconFlow.Model) :
    Settles P (Command.pricedOffer vouchers m) := by
  have hpricing : Settles P m.pricingLabel := by
    have hlisted : ("pricing.priced", ["input", "output"]) ∈ valued := by decide
    unfold SiliconFlow.Model.pricingLabel
    cases m.pricing with
    | none => exact settles_wording ht hP.voiced (.inl rfl)
    | some p =>
      dsimp only
      split_ifs
      · exact settles_wording ht hP.voiced (.inl rfl)
      · exact settles_wording ht hP.voiced (.inr hlisted)
  exact (settles_wording ht hP.voiced (.inl rfl)).bind fun provider => hpricing.bind fun pricing =>
    Settles.pure _

end Action

/-- The key in the store of the process. -/
def World.storedKey (w : World) : String :=
  (w.store.getD ⟨⟨"", []⟩, []⟩).text Store.keyName

theorem Action.exec_storedKey (w : World) :
    exec (storedText Store.keyName) w = (.ok w.storedKey, w) :=
  rfl

namespace SiliconFlow

variable {w : World} {t : Translator}

/-- The offers crash if there is a key and their second answer breaks the list off. Otherwise they
come to those of SimpleTex, and to no others without a key and a list. -/
theorem exec_runAvailableModels (ht : t.Complete) (hw : w.Offers t) :
    (∃ offers v, exec Command.runAvailableModels w = (.ok offers, v) ∧
        offers.quota.map (·.named.model) = SimpleTex.models ∧
        (w.storedKey ≠ "" ∧ Lists (taken (taken w.network).2).1 ∨ offers.priced = []) ∧
        ¬ (w.storedKey ≠ "" ∧ Breaks (taken (taken w.network).2).1)) ∨
      (∃ kind, (exec Command.runAvailableModels w).1 = .error (.crash (.notIterable kind))) ∧
        w.storedKey ≠ "" ∧ Breaks (taken (taken w.network).2).1 := by
  have htoken : exec (storedText Store.tokenName) w = (.ok w.storedToken, w) := rfl
  obtain ⟨vouchers, hvouchers⟩ : ∃ vouchers, exec (storedTexts Store.vouchersName) w =
    (.ok vouchers, w) := ⟨_, rfl⟩
  unfold Command.runAvailableModels
  rw [exec_bind_ok htoken, exec_bind_ok (exec_storedKey w), exec_bind_ok hvouchers]
  generalize w.storedKey = key
  obtain ⟨quota, v, hquota, hv⟩ := Settles.mapM
    (settles_quotaOffer ht w.network (w.storedToken != "")) SimpleTex.models w ⟨hw, rfl⟩
  have hmodels : quota.map (·.named.model) = SimpleTex.models :=
    map_of_mapM (fun h => quotaOffer_model h) hquota
  rw [exec_bind_ok hquota]
  by_cases hkey : key = ""
  · subst hkey
    exact .inl ⟨_, v, rfl, hmodels, .inr rfl, fun h => h.1 rfl⟩
  · obtain ⟨balance, u, hbalance, hu, hnetwork⟩ := exec_fetchBalance ht (asking_offers t) hv.1 hkey
    rw [hv.2] at hnetwork
    rw [exec_bind_ok hbalance, ← hnetwork]
    rcases exec_listVisionModels ht (asking_offers t) hu hkey none with
      ⟨models, x, hlisted, hx, hlists, hbreaks⟩ | ⟨⟨kind, hkind⟩, hbreaks⟩
    · obtain ⟨priced, y, hpriced, -⟩ :=
        Settles.mapM (settles_pricedOffer ht (asking_offers t) vouchers) models x hx
      rw [exec_bind_ok hlisted, exec_bind_ok hpriced]
      refine .inl ⟨_, y, rfl, hmodels, ?_, fun h => hbreaks h.2⟩
      rcases hlists with hlists | rfl
      · exact .inl ⟨hkey, hlists⟩
      · obtain ⟨hnone, -⟩ := Prod.mk.inj hpriced
        exact .inr (Except.ok.inj hnone).symm
    · refine .inr ⟨⟨kind, ?_⟩, hkey, hbreaks⟩
      rw [exec_bind]
      cases hexec : exec (listVisionModels key none) u with
      | mk result x =>
        rw [hexec] at hkind
        obtain rfl : result = _ := hkind
        rfl

/-- Models are listed in every world where calls come to an answer or to something to complain of,
whatever the network holds ready: for the list, this is the first outcome when the catalog alone is
asked for, and the second one, behind the balance, when offers are. The offers of SimpleTex come
first, and there are no others unless the answer is an object whose data is a list. The one
exception are answers in whose data a number or `true` stands: these end the catalog and the offers
with a crash. -/
theorem listing_ends (ht : t.Complete) (hw : w.Asks t) :
    (∀ key prices,
      let answer := (taken w.network).1
      let ended := (exec (listVisionModels key prices) w).1
      (¬ (key ≠ "" ∧ Breaks answer) →
        ∃ models, ended = .ok models ∧ (¬ Lists answer → models = [])) ∧
      (key ≠ "" ∧ Breaks answer → ∃ kind, ended = .error (.crash (.notIterable kind)))) ∧
    (w.counterPath.isSome = true →
      let answer := (taken (taken w.network).2).1
      let ended := (exec Command.runAvailableModels w).1
      (¬ (w.storedKey ≠ "" ∧ Breaks answer) →
        ∃ offers, ended = .ok offers ∧ offers.quota.map (·.named.model) = SimpleTex.models ∧
          offers.toJson.member "models" = .arr (offers.quota.map QuotaOffer.toJson ++
            offers.priced.map (PricedOffer.toJson offers.balance)) ∧
          (¬ Lists answer → offers.priced = [])) ∧
      (w.storedKey ≠ "" ∧ Breaks answer →
        ∃ kind, ended = .error (.crash (.notIterable kind)))) := by
  refine ⟨fun key prices => ?_, fun hpath => ?_⟩
  · by_cases hkey : key = ""
    · subst hkey
      exact ⟨fun _ => ⟨[], rfl, fun _ => rfl⟩, fun h => absurd rfl h.1⟩
    · rcases exec_listVisionModels ht (asking_asks t) hw hkey prices with
        ⟨models, v, hexec, -, hlists, hbreaks⟩ | ⟨hcrash, hbreaks⟩
      · refine ⟨fun _ => ⟨models, ?_, hlists.resolve_left⟩, fun h => absurd h.2 hbreaks⟩
        rw [hexec]
      · exact ⟨fun h => absurd ⟨hkey, hbreaks⟩ h, fun _ => hcrash⟩
  · rcases exec_runAvailableModels ht ⟨hw, hpath⟩ with
      ⟨offers, v, hexec, hmodels, hlists, hbreaks⟩ | ⟨hcrash, hbreaks⟩
    · refine ⟨fun _ => ⟨offers, ?_, hmodels, rfl, fun hnone => ?_⟩, fun h => absurd h hbreaks⟩
      · rw [hexec]
      · exact hlists.resolve_left fun h => hnone h.2
    · exact ⟨fun h => absurd hbreaks h, fun _ => hcrash⟩

/-- A service in English with a key. Its balance is not to be had, and where its models should be
listed there is a number. -/
def listless : World :=
  { Recognition.overconfident with
    network := [.response ⟨503, []⟩,
      .response ⟨200, Encoding.Utf8.encodeString (written [("data", .int 3)])⟩]
    store := some ⟨⟨"/", ["data", "config.json"]⟩, [(Store.keyName, .str "k")]⟩ }

theorem asks_listless : listless.Asks inEnglish where
  timeout := Recognition.serving_overconfident.timeout
  translator := Recognition.serving_overconfident.speaks.translator
  network o ho := by
    rcases List.mem_cons.1 ho with rfl | ho
    · trivial
    · obtain rfl := List.mem_singleton.1 ho
      trivial

/-- The first answer lists nothing, and the second one ends the offers with a crash. -/
theorem listing_ends_listless :
    (exec (listVisionModels "k") listless).1 = .ok [] ∧
      ∃ kind, (exec Command.runAvailableModels listless).1 =
        .error (.crash (.notIterable kind)) := by
  obtain ⟨hcatalog, hoffers⟩ := listing_ends complete_inEnglish asks_listless
  have hbreaks : Breaks (taken (taken listless.network).2).1 := by
    have hsound : (Json.obj [("data", .int 3)]).Sound := by
      simp [Json.Sound, Json.Everywhere, Json.EverywhereMembers]
    have hbody := jsonOfBytes_written hsound
    exact ⟨.int 3, ⟨rfl, _, hbody, rfl⟩, .int (by decide)⟩
  have hrefused : (⟨503, []⟩ : Response).isSuccess ≠ true := by decide
  obtain ⟨models, hmodels, hnone⟩ := (hcatalog "k" none).1 fun h => by
    obtain ⟨_, data, hbrings, -⟩ := h
    exact hrefused hbrings.1
  refine ⟨?_, (hoffers rfl).2 ⟨by decide, hbreaks⟩⟩
  rw [hmodels, hnone fun h => ?_]
  obtain ⟨entries, hbrings⟩ := h
  exact hrefused hbrings.1

end SiliconFlow

end FormulaOcr
