import FormulaOcr.Proofs.Recognition.Selectors

/-! The models that are offered can be selected. The offers are those of the table and those of the
list that SiliconFlow answers with, and the id of each entry is the selector of its model. -/

namespace FormulaOcr

open FormulaOcr.Action FormulaOcr.Localization FormulaOcr.Recognition

/-! What is listed. -/

/-- An outcome is an answer that lists a model. -/
def SiliconFlow.Names (id : String) (o : Outcome) : Prop :=
  ∃ r ids, o = .response r ∧ listing r = .ok ids ∧ id ∈ ids

/-- A world that differs from another one in its files, in the place of its counters and in its
translators alone. -/
def World.Readied (w v : World) : Prop :=
  ∃ d p kept, v = { w with disk := d, counterPath := p, translators := kept }

namespace Action

variable {α : Type} {w v : World}

/-- An attempt came to what was attempted, and this was no crash. -/
theorem exec_attempt_eq_ok {a : Action α} {tried : Except Failure α}
    (h : exec (attempt a) w = (.ok tried, v)) : exec a w = (tried.mapError .failure, v) := by
  rw [exec_attempt] at h
  generalize exec a w = done at h
  obtain ⟨result, u⟩ := done
  cases result with
  | ok x =>
    obtain ⟨htried, rfl⟩ := Prod.mk.inj h
    rw [← Except.ok.inj htried]
    rfl
  | error e =>
    cases e with
    | failure f =>
      obtain ⟨htried, rfl⟩ := Prod.mk.inj h
      rw [← Except.ok.inj htried]
      rfl
    | crash c => cases congrArg Prod.fst h

/-- A call that has a time to wait takes one outcome, however it ends. -/
theorem network_send {x : Binary64} (htimeout : w.configuration.timeout = .ok x) (p : Provider)
    (verb : Verb) (path : String) (credential : Json) (headers : List (String × Json))
    (payload : Payload) :
    (exec (p.send verb path credential headers payload) w).2.network = (taken w.network).2 := by
  rw [exec_send_timed htimeout p verb path credential headers payload _ rfl]
  cases givenBack (taken w.network).1 with
  | error e => rfl
  | ok given =>
    cases given with
    | ok r => rfl
    | error i =>
      exact agrees_only.1 ((agrees_translator_network _).complain (.requestFailed i.detail)) _ rfl

/-- A balance that was asked for took one outcome, and there was a time to wait. -/
theorem fetchBalance_eq_ok {key : String} {balance : Option SiliconFlow.Balance} (hkey : key ≠ "")
    (h : exec (SiliconFlow.fetchBalance key) w = (.ok balance, v)) :
    (∃ x, w.configuration.timeout = .ok x) ∧ v.network = (taken w.network).2 := by
  unfold SiliconFlow.fetchBalance at h
  rw [if_neg hkey] at h
  obtain ⟨tried, u, hattempt, hrest⟩ := exec_bind_eq_ok h
  have hreport := exec_attempt_eq_ok hattempt
  unfold SiliconFlow.fetchAccount at hreport
  obtain rfl : v = u := by
    cases tried <;> exact (congrArg Prod.snd hrest).symm
  cases htimeout : w.configuration.timeout with
  | error e =>
    rw [exec_bind_error (exec_send_untimed htimeout _ _ _ _ _ _)] at hreport
    cases tried <;> cases congrArg Prod.fst hreport
  | ok x =>
    have hsent := network_send htimeout .siliconflow .get "user/info" (.str key) [] .nothing
    have hread (r : Response) : Agrees (Only (·.network = (taken w.network).2)) (do
        if r.isSuccess then
          return some (SiliconFlow.Balance.ofReport (← Action.ofProblem r.json))
        else return none) :=
      Agrees.ite (fun _ => ((agrees_translator_network _).ofProblem r.json).bind
        fun report => Agrees.pure _) fun _ => Agrees.pure none
    refine ⟨⟨x, rfl⟩, ?_⟩
    rw [exec_bind] at hreport
    generalize exec (Provider.send _ _ _ _ _ _) w = done at hsent hreport
    obtain ⟨result, y⟩ := done
    cases result with
    | ok r =>
      dsimp only at hreport
      have hkept := agrees_only.1 (hread r) y hsent
      rwa [hreport] at hkept
    | error e =>
      obtain ⟨-, rfl⟩ := Prod.mk.inj hreport
      exact hsent

end Action

namespace SiliconFlow

variable {w v : World} {key : String} {m : Model}

theorem listModelIds_eq_ok {key : Json} {ids : List String}
    (h : exec (listModelIds key) w = (.ok ids, v)) :
    ∃ r, w.outcome = .response r ∧ listing r = .ok ids := by
  have hcalls := callsFor_send listing .siliconflow .get "models" key []
    (.query [("sub_type", "chat")]) w
  cases htimeout : w.configuration.timeout with
  | error e => cases congrArg Prod.fst ((hcalls.untimed e htimeout).symm.trans h)
  | ok x =>
    have htold := ((hcalls.timed x htimeout).result ids).1 (congrArg Prod.fst h)
    cases houtcome : w.outcome with
    | response r =>
      rw [houtcome] at htold
      exact ⟨r, rfl, htold⟩
    | interrupted i =>
      rw [houtcome] at htold
      cases htold

/-- A model of the catalog is on the list and sees pictures, so that it has a name. -/
theorem mem_catalog {ids : List String} {prices : Dictionary Pricing} (h : m ∈ catalog ids prices) :
    m.id ∈ ids ∧ m.id ≠ "" := by
  rw [catalog, List.mem_mergeSort, List.mem_filterMap] at h
  obtain ⟨id, hid, hlisted⟩ := h
  unfold listed? at hlisted
  dsimp only at hlisted
  split_ifs at hlisted with hvision
  rw [← Option.some.inj hlisted]
  refine ⟨hid, ?_⟩
  rintro rfl
  exact absurd hvision (by decide)

/-- The models of a list that came about were named by the outcome that was next. -/
theorem listVisionModels_eq_ok {models : List Model}
    (h : exec (listVisionModels key) w = (.ok models, v)) (hm : m ∈ models) :
    Names m.id w.outcome ∧ m.id ≠ "" := by
  unfold listVisionModels at h
  split_ifs at h with hkey
  · obtain ⟨hnone, -⟩ := Prod.mk.inj h
    rw [← Except.ok.inj hnone] at hm
    cases hm
  obtain ⟨tried, u, hattempt, hrest⟩ := exec_bind_eq_ok h
  have hlisted := exec_attempt_eq_ok hattempt
  cases tried with
  | error f =>
    obtain ⟨hnone, -⟩ := Prod.mk.inj hrest
    rw [← Except.ok.inj hnone] at hm
    cases hm
  | ok ids =>
    obtain ⟨prices, u', -, hmade⟩ := exec_bind_eq_ok hrest
    obtain ⟨hcatalog, -⟩ := Prod.mk.inj hmade
    rw [← Except.ok.inj hcatalog] at hm
    obtain ⟨r, houtcome, hids⟩ := listModelIds_eq_ok hlisted
    obtain ⟨hid, hne⟩ := mem_catalog hm
    exact ⟨⟨r, ids, houtcome, hids, hid⟩, hne⟩

end SiliconFlow

/-! The entries. -/

theorem World.Readied.refl (w : World) : w.Readied w :=
  ⟨w.disk, w.counterPath, w.translators, rfl⟩

namespace Action

variable {w v : World}

/-- The offers of SimpleTex are made without a call. -/
theorem agrees_quotaOffer (w : World) (available : Bool) (m : SimpleTex.Model) :
    Agrees (Only w.Readied) (Command.quotaOffer available m) := by
  have htranslator : Agrees (Only w.Readied) translator := by
    refine agrees_translator_of ?_
    rintro _ kept ⟨d, p, _, rfl⟩
    exact ⟨d, p, kept, rfl⟩
  have hload : Agrees (Only w.Readied) loadUsage := by
    refine agrees_loadUsage_of ?_
    rintro _ d p ⟨_, _, kept, rfl⟩
    exact ⟨d, p, kept, rfl⟩
  have husage : Agrees (Only w.Readied) (usageToday m.id) :=
    hload.bind fun usage => Agrees.get (fun u v h => by rw [h.1]) fun v => Agrees.pure _
  exact (htranslator.wording _ _).bind fun name => (htranslator.wording _ _).bind fun provider =>
    husage.bind fun usageToday => (htranslator.wording _ _).bind fun pricing => Agrees.pure _

theorem pricedOffer_model {vouchers : List String} {m : SiliconFlow.Model} {o : PricedOffer}
    (h : exec (Command.pricedOffer vouchers m) w = (.ok o, v)) : o.model = m := by
  obtain ⟨provider, _, -, h⟩ := exec_bind_eq_ok h
  obtain ⟨pricing, _, -, h⟩ := exec_bind_eq_ok h
  obtain ⟨ho, -⟩ := Prod.mk.inj h
  rw [← Except.ok.inj ho]

end Action

variable {w v : World} {offers : Offers}

/-- Offers that came about are those of the table and of the models that were listed, with a balance
that was fetched before. -/
theorem runAvailableModels_parts (h : exec Command.runAvailableModels w = (.ok offers, v)) :
    ∃ u u' u'' models, w.Readied u ∧
      exec (SiliconFlow.fetchBalance w.storedKey) u = (.ok offers.balance, u') ∧
      exec (SiliconFlow.listVisionModels w.storedKey) u' = (.ok models, u'') ∧
      offers.quota.map (·.named.model) = SimpleTex.models ∧
      offers.priced.map (·.model) = models := by
  have htoken : exec (storedText Store.tokenName) w = (.ok w.storedToken, w) := rfl
  obtain ⟨vouchers, hvouchers⟩ : ∃ vouchers, exec (storedTexts Store.vouchersName) w =
    (.ok vouchers, w) := ⟨_, rfl⟩
  unfold Command.runAvailableModels at h
  rw [exec_bind_ok htoken, exec_bind_ok (exec_storedKey w), exec_bind_ok hvouchers] at h
  obtain ⟨quota, u, hquota, h⟩ := exec_bind_eq_ok h
  obtain ⟨balance, u', hbalance, h⟩ := exec_bind_eq_ok h
  obtain ⟨models, u'', hmodels, h⟩ := exec_bind_eq_ok h
  obtain ⟨priced, _, hpriced, h⟩ := exec_bind_eq_ok h
  obtain ⟨hmade, -⟩ := Prod.mk.inj h
  have hreadied := agrees_only.1 (Agrees.mapM (agrees_quotaOffer w (w.storedToken != ""))
    SimpleTex.models) w (World.Readied.refl w)
  rw [hquota] at hreadied
  rw [← Except.ok.inj hmade]
  exact ⟨u, u', u'', models, hreadied, hbalance, hmodels,
    map_of_mapM (fun h => quotaOffer_model h) hquota,
    map_of_mapM (fun h => pricedOffer_model h) hpriced⟩

/-- With a key, offers that came about are those of the table and of models that the second answer
names, and there was a time to wait. -/
theorem runAvailableModels_eq_ok (hkey : w.storedKey ≠ "")
    (h : exec Command.runAvailableModels w = (.ok offers, v)) :
    (∃ x, w.configuration.timeout = .ok x) ∧
      offers.quota.map (·.named.model) = SimpleTex.models ∧
      ∀ o ∈ offers.priced,
        SiliconFlow.Names o.model.id (taken (taken w.network).2).1 ∧ o.model.id ≠ "" := by
  obtain ⟨_, u', _, models, ⟨d, p, kept, rfl⟩, hbalance, hmodels, hquota, hpriced⟩ :=
    runAvailableModels_parts h
  obtain ⟨htimeout, hnetwork⟩ := fetchBalance_eq_ok hkey hbalance
  refine ⟨htimeout, hquota, fun o ho => ?_⟩
  have hmem : o.model ∈ models := hpriced ▸ List.mem_map_of_mem ho
  have hnamed := SiliconFlow.listVisionModels_eq_ok hmodels hmem
  rwa [World.outcome, hnetwork] at hnamed

/-- The configuration and the store stay as they are, step by step. -/
theorem reads_settings (c : Configuration) (s : Option Store) :
    Reads (Only fun w => w.configuration = c ∧ w.store = s) where
  toBasics := basics_only (agrees_translator_of fun _ _ hw => hw) (fun _ _ hw => hw)
    (fun _ _ hw => hw) (agrees_counterPath_of fun _ _ _ hw => hw)
  store w v hR := by rw [hR.1]

/-- Every model that is offered can be selected: by the ids of the first entries, the models of the
table, and by those of the others, models that the answer to the request for a list names. -/
theorem offers_selectable (hkey : w.storedKey ≠ "")
    (hrun : exec Command.runAvailableModels w = (.ok offers, v)) :
    v.configuration = w.configuration ∧ v.store = w.store ∧
      offers.toJson.member "models" = .arr (offers.quota.map QuotaOffer.toJson ++
        offers.priced.map (PricedOffer.toJson offers.balance)) ∧
      offers.quota.map (·.named.model) = SimpleTex.models ∧
      (∀ o ∈ offers.quota,
        Selects w.configuration o.toJson .simpletex o.named.model.id) ∧
      ∀ o ∈ offers.priced, SiliconFlow.Names o.model.id (taken (taken w.network).2).1 ∧
        Selects w.configuration (o.toJson offers.balance) .siliconflow o.model.id := by
  obtain ⟨⟨x, htimeout⟩, hquota, hpriced⟩ := runAvailableModels_eq_ok hkey hrun
  have hsettings := ((reads_settings w.configuration w.store).parallelReads.runAvailableModels w w
    ⟨rfl, rfl, rfl⟩).2.2
  rw [hrun] at hsettings
  refine ⟨hsettings.1, hsettings.2, rfl, hquota, fun o ho => ?_, fun o ho => ?_⟩
  · have hmem : o.named.model ∈ SimpleTex.models := hquota ▸ List.mem_map_of_mem ho
    have hnamed : ∀ k ∈ SimpleTex.models, k.id ≠ "" := by decide
    exact selects_of_id rfl (hnamed _ hmem) (fun _ => SimpleTex.dropWhile_id hmem) htimeout
  · obtain ⟨hnames, hne⟩ := hpriced o ho
    exact ⟨hnames, selects_of_id rfl hne (fun hsimple => nomatch hsimple) htimeout⟩

/-- A service in English with both credentials. Its balance is not to be had, and a model is listed
whose id has colons, a slash and a blank in it. -/
def offering : World :=
  { overconfident with
    network := [.response ⟨503, []⟩,
      .response ⟨200, Encoding.Utf8.encodeString
        (written [("data", .arr [.obj [("id", .str "a/b: c:VL")]])])⟩]
    store := some ⟨⟨"/", ["data", "config.json"]⟩,
      [(Store.tokenName, .str "t"), (Store.keyName, .str "k")]⟩ }

theorem offers_selectable_offering :
    ∃ offers v, exec Command.runAvailableModels offering = (.ok offers, v) ∧
      (∃ entry ∈ offers.priced.map (PricedOffer.toJson offers.balance),
        entry.member "id" = .str "siliconflow:a/b: c:VL") ∧
      ∃ call more, (exec (Command.runRecognize (.str "AAAA") (.str "ocr")
          (.str "siliconflow:a/b: c:VL")) v).2.calls = v.calls ++ call :: more ∧
        call.IsFor offering.configuration "a/b: c:VL" .siliconflow := by
  obtain ⟨offers, v, h⟩ := exec_eq_ok (a := Command.runAvailableModels) (w := offering)
    (by decide +kernel)
  have hlisted : (exec Command.runAvailableModels offering).1.toOption.map
      (fun offers => offers.priced.map (·.model.id)) = some ["a/b: c:VL"] := by
    decide +kernel
  rw [h] at hlisted
  obtain ⟨o, ho, hid⟩ := List.map_eq_singleton_iff.1 (Option.some.inj hlisted)
  have hmem : o ∈ offers.priced := by rw [ho]; exact List.mem_singleton_self o
  obtain ⟨hconfiguration, hstore, -, -, -, hpriced⟩ := offers_selectable (by decide) h
  obtain ⟨-, selector, hselector, hselects⟩ := hpriced o hmem
  have hentry : (o.toJson offers.balance).member "id" = .str "siliconflow:a/b: c:VL" := by
    rw [← show "siliconflow:" ++ o.model.id = "siliconflow:a/b: c:VL" by rw [hid]; rfl]
    rfl
  obtain rfl : selector = "siliconflow:a/b: c:VL" := Json.str.inj (hselector.symm.trans hentry)
  have htoken : v.storedToken ≠ "" := by
    rw [World.storedToken, hstore]
    decide
  have hkey : v.storedKey ≠ "" := by
    rw [World.storedKey, hstore]
    decide
  have hbytes : SimpleTex.decodeImage "AAAA" = .ok [0, 0, 0] :=
    eq_ok_of_toOption (by decide +kernel)
  have hlast : ∀ last ∈ "siliconflow:a/b: c:VL".toList.getLast?, Text.isBlank last = false := by
    rintro _ ⟨⟩
    decide
  obtain ⟨hcalled, -⟩ := hselects hlast v "AAAA" "ocr" [0, 0, 0] hconfiguration htoken hkey
    hbytes (by decide)
  rw [hid] at hcalled
  exact ⟨offers, v, h, ⟨_, List.mem_map_of_mem hmem, hentry⟩, hcalled⟩

end FormulaOcr
