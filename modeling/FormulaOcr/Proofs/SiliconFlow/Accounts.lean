import FormulaOcr.Proofs.Store.View

/-! What is shown of an account. It is known if there is a key and the answer about it is one of
success that holds JSON. Wherever a balance is shown, the same amounts are shown then, and otherwise
none; nothing that can be wrong with the answer keeps the rest from being shown. -/

namespace FormulaOcr

open FormulaOcr.Action FormulaOcr.Localization FormulaOcr.Recognition

namespace SiliconFlow

variable {key : String} {o : Outcome} {b : Balance} {found : Option Balance} {w v : World}

/-- The balance that a response tells of; nothing if it is not one of success. -/
def accounted (r : Response) : Except Problem (Option Balance) :=
  if r.isSuccess then r.json.map fun report => some (.ofReport report) else .ok none

/-- The balance that is known upon an outcome: what the outcome tells if there is a key. -/
def accountOf (key : String) (o : Outcome) : Option Balance :=
  if key = "" then none else (o.told accounted).toOption.join

theorem accountOf_eq_some : accountOf key o = some b ↔
    key ≠ "" ∧ ∃ r report, o = .response r ∧ 200 ≤ r.status ∧ r.status < 300 ∧
      Response.jsonOfBytes r.body = .ok report ∧ b = .ofReport report := by
  unfold accountOf
  split_ifs with hkey
  · simp [hkey]
  cases o with
  | interrupted i => simp [Outcome.told, Except.toOption]
  | response r =>
    have hsuccess : r.isSuccess = true ↔ 200 ≤ r.status ∧ r.status < 300 := by
      simp [Response.isSuccess]
    simp only [Outcome.told, accounted, Response.json]
    split_ifs with h
    · obtain ⟨hlow, hhigh⟩ := hsuccess.1 h
      cases hbody : Response.jsonOfBytes r.body with
      | error f => simp [Except.toOption, Except.map, Except.mapError, hbody]
      | ok report =>
        simp [Except.toOption, Except.map, Except.mapError, hbody, hkey, hlow, hhigh, eq_comm]
    · simp only [Except.toOption, Option.join_some, reduceCtorEq, false_iff]
      rintro ⟨-, _, _, ⟨⟩, hlow, hhigh, -⟩
      exact h (hsuccess.2 ⟨hlow, hhigh⟩)

end SiliconFlow

/-- There is a time to wait for an answer about an account, and words for what can be wrong with it:
that the call failed, or that the body of an answer of success is no JSON. -/
structure World.Inquires (w : World) : Prop where
  timeout : ∃ x, w.configuration.timeout = .ok x
  failed : ∀ i, w.outcome = .interrupted i →
    i.isNetwork = true ∧ w.Voices (.requestFailed i.detail)
  unread : ∀ r f, w.outcome = .response r → r.isSuccess = true →
    Response.jsonOfBytes r.body = .error f → w.Voices (.badResponse f.message)

/-- All that is complained of an answer about an account there are words for. -/
theorem World.Inquires.voices {w : World} (h : w.Inquires) {p : Problem}
    (htold : w.outcome.told SiliconFlow.accounted = .error p) :
    ∃ c, p = .complaint c ∧ w.Voices c := by
  cases houtcome : w.outcome with
  | interrupted i =>
    obtain ⟨hi, hvoices⟩ := h.failed i houtcome
    rw [houtcome, Outcome.told, if_pos hi] at htold
    exact ⟨_, (Except.error.inj htold).symm, hvoices⟩
  | response r =>
    simp only [houtcome, Outcome.told, SiliconFlow.accounted, Response.json] at htold
    split_ifs at htold with hsuccess
    cases hbody : Response.jsonOfBytes r.body with
    | ok report =>
      rw [hbody] at htold
      cases htold
    | error f =>
      rw [hbody] at htold
      exact ⟨_, (Except.error.inj htold).symm, h.unread r f houtcome hsuccess hbody⟩

/-- A process that speaks with a complete table can ask for an account, and say what is wrong. -/
theorem inquires_of_complete {w : World} {t : Translator} {x : Binary64} (hcomplete : t.Complete)
    (ht : w.translator = .ok t) (htimeout : w.configuration.timeout = .ok x)
    (hnetwork : SiliconFlow.FromNetwork w.outcome) : w.Inquires where
  timeout := ⟨x, htimeout⟩
  failed i hi := by
    have hlisted : ("errors.request_failed", ["detail"]) ∈ valued := by decide
    exact ⟨by rwa [hi] at hnetwork, voices_of_complete hcomplete ht (.inr hlisted)⟩
  unread _ f _ _ _ := by
    have hlisted : ("errors.bad_response", ["detail"]) ∈ valued := by decide
    exact voices_of_complete hcomplete ht (.inr hlisted)

/-! Fetching it. -/

namespace Action

open SiliconFlow

variable {key : String} {found : Option Balance} {w v : World}

/-- With a key, an account is asked for by a call whose response is read, and is unknown if that
fails. -/
theorem fetchBalance_eq (hkey : key ≠ "") :
    ∃ report, (fetchBalance key = do
        match ← attempt report with
        | .ok balance => return balance
        | .error _ => return none) ∧
      ∀ w, CallsFor report (w.outcome.told accounted) w := by
  have hread : (fun response : Response => (do
      if response.isSuccess then
        return some (Balance.ofReport (← ofProblem response.json))
      else return none : Action (Option Balance))) = fun r => ofProblem (accounted r) := by
    funext r
    unfold accounted
    split_ifs
    · exact (ofProblem_map r.json fun report => some (Balance.ofReport report)).symm
    · rfl
  refine ⟨fetchAccount (.str key) >>= fun r => ofProblem (accounted r), ?_, fun w =>
    callsFor_send accounted .siliconflow .get "user/info" (.str key) [] .nothing w⟩
  rw [← hread]
  exact if_neg hkey

/-- A balance that was fetched is the one that the outcome tells of. -/
theorem fetchBalance_account (h : exec (fetchBalance key) w = (.ok found, v)) :
    found = accountOf key w.outcome := by
  unfold accountOf
  by_cases hkey : key = ""
  · rw [fetchBalance, if_pos hkey] at h
    rw [if_pos hkey]
    exact (Except.ok.inj (congrArg Prod.fst h)).symm
  obtain ⟨report, hfetch, hcalls⟩ := fetchBalance_eq hkey
  rw [hfetch] at h
  obtain ⟨tried, u, hattempt, hrest⟩ := exec_bind_eq_ok h
  have hreport := exec_attempt_eq_ok hattempt
  rw [if_neg hkey]
  cases htimeout : w.configuration.timeout with
  | error e =>
    rw [(hcalls w).untimed e htimeout] at hreport
    cases tried <;> cases congrArg Prod.fst hreport
  | ok x =>
    have hcomes := (hcalls w).timed x htimeout
    rw [hreport] at hcomes
    cases tried with
    | ok balance =>
      rw [(hcomes.result balance).1 rfl]
      exact (Except.ok.inj (congrArg Prod.fst hrest)).symm
    | error f =>
      rw [((hcomes.complained f.complaint).1 ⟨f.message, rfl⟩).1]
      exact (Except.ok.inj (congrArg Prod.fst hrest)).symm

/-- A balance is always got, if only none, when it can be asked for. -/
theorem exec_fetchBalance_inquires (h : key ≠ "" → w.Inquires) :
    ∃ v, exec (fetchBalance key) w = (.ok (accountOf key w.outcome), v) := by
  suffices hgot : ∃ found v, exec (fetchBalance key) w = (.ok found, v) by
    obtain ⟨found, v, hexec⟩ := hgot
    exact ⟨v, fetchBalance_account hexec ▸ hexec⟩
  by_cases hkey : key = ""
  · rw [fetchBalance, if_pos hkey]
    exact ⟨none, w, rfl⟩
  obtain ⟨x, htimeout⟩ := (h hkey).timeout
  obtain ⟨report, hfetch, hcalls⟩ := fetchBalance_eq hkey
  have hcomes := (hcalls w).timed x htimeout
  have hattempt := exec_attempt report w
  rw [hfetch]
  generalize exec report w = done at hcomes hattempt
  obtain ⟨ended, u⟩ := done
  cases htold : w.outcome.told accounted with
  | ok balance =>
    obtain rfl : ended = .ok balance := (hcomes.result balance).2 htold
    exact ⟨balance, u, exec_bind_ok hattempt _⟩
  | error p =>
    obtain ⟨c, rfl, hvoices⟩ := (h hkey).voices htold
    obtain ⟨message, rfl⟩ := (hcomes.complained c).2 ⟨htold, hvoices⟩
    exact ⟨none, u, exec_bind_ok hattempt _⟩

end Action

/-! Viewing the settings. -/

/-- A process speaks with a translator and has chosen its counters. -/
def World.Attends (t : Translator) (p : Path) (w : World) : Prop :=
  w.translator = .ok t ∧ w.counterPath = some p

namespace Action

open SiliconFlow

variable {w : World} {t : Translator} {p : Path}

theorem basics_attends (t : Translator) (p : Path) : Basics (Only (World.Attends t p)) := by
  have htranslator : Agrees (Only (World.Attends t p)) translator :=
    agrees_only.2 fun w hw => by
      obtain ⟨kept, hspoken⟩ := World.spoken_eq w
      rw [exec_translator]
      refine ⟨(translator_spoken w).trans hw.1, ?_⟩
      rw [hspoken]
      exact hw.2
  exact basics_only htranslator (fun _ _ hw => hw) (fun _ _ hw => hw)
    (agrees_only.2 fun w hw => by rwa [exec_counterPath hw.2])

/-- Words without values are always found. -/
theorem settles_plain (t : Translator) (p : Path) (key : String) :
    Settles (World.Attends t p) (wording key) := by
  intro w hw
  have htold : t.translate key [] = .ok ((t.messages.find? key).getD (.str key)) := rfl
  have hworded := exec_wording hw.1 rfl htold
  have hkept := agrees_only.1 ((basics_attends t p).wording key []) w hw
  rw [hworded] at hkept
  exact ⟨_, _, hworded, hkept⟩

/-- The settings can be viewed if the account can be asked for. -/
theorem exec_runGetSettings_inquires (hw : w.Attends t p) (h : w.storedKey ≠ "" → w.Inquires) :
    ∃ view v, exec Command.runGetSettings w = (.ok view, v) := by
  have hstored {α : Type} (f : Store → α) :
      Settles (World.Attends t p) (do return f (← store)) :=
    fun w hw => ⟨_, w, rfl, hw⟩
  have hnamed : Settles (World.Attends t p) Command.namedModels :=
    Settles.mapM (fun m => (settles_plain t p _).bind fun name => Settles.pure _) _
  have husage (ids : List String) : Settles (World.Attends t p) (usageByModel ids) := by
    intro w hw
    obtain ⟨counts, hcounts⟩ := Session.exec_usageByModel hw.2 ids
    exact ⟨counts, w, hcounts, hw⟩
  obtain ⟨v, hbalance⟩ := exec_fetchBalance_inquires h
  have hv := agrees_only.1 ((basics_attends t p).fetchBalance w.storedKey) w hw
  rw [hbalance] at hv
  have hafter {a : Action SettingsView} (ha : Settles (World.Attends t p) a) :
      ∃ view u, exec a v = (.ok view, u) := by
    obtain ⟨view, u, hview, -⟩ := ha v hv
    exact ⟨view, u, hview⟩
  unfold Command.runGetSettings
  rw [exec_bind_ok (exec_storedKey w), exec_bind_ok hbalance]
  exact hafter ((hstored _).bind fun token => (hstored _).bind fun model =>
    hnamed.bind fun models => (husage _).bind fun usage => (hstored _).bind fun vouchers => Settles.pure _)

end Action

/-! What answers show. -/

/-- An answer shows an account under the names of the total and of the charge: both amounts of a
balance that is known, and neither of one that is not. -/
structure Json.ShowsAccount (j : Json) (total charge : String)
    (account : Option SiliconFlow.Balance) : Prop where
  total : j.member? total = account.map fun b => .str b.total
  charge : j.member? charge = account.map fun b => .str b.charge

theorem SettingsView.showsAccount (view : SettingsView) :
    view.toJson.ShowsAccount "sf_balance" "sf_charge_balance" view.balance := by
  constructor <;> cases hbalance : view.balance <;> simp [toJson, hbalance] <;> rfl

theorem Reply.showsAccount (account : Option SiliconFlow.Balance) :
    (Reply.balance account).toJson.ShowsAccount "total_balance" "charge_balance" account := by
  constructor <;> cases account <;> rfl

theorem QuotaOffer.showsAccount (o : QuotaOffer) :
    o.toJson.ShowsAccount "total_balance" "charge_balance" none :=
  ⟨rfl, rfl⟩

theorem PricedOffer.showsAccount (o : PricedOffer) (account : Option SiliconFlow.Balance) :
    (o.toJson account).ShowsAccount "total_balance" "charge_balance" account := by
  constructor <;> cases account <;> rfl

theorem Offers.showsAccount (offers : Offers) :
    offers.toJson.ShowsAccount "sf_balance" "sf_charge_balance" offers.balance := by
  constructor <;> cases hbalance : offers.balance <;> simp [toJson, hbalance] <;> rfl

theorem Offers.member_voucher (offers : Offers) :
    offers.toJson.member? "voucher_balance" = offers.balance.map fun b => .str b.voucher := by
  cases hbalance : offers.balance <;> simp [toJson, hbalance] <;> rfl

/-! The three commands. -/

variable {w u v : World} {reply : Reply} {found : Option SiliconFlow.Balance}

/-- A balance that was fetched later is the same as long as no other call was made. -/
theorem World.Readied.account (hu : w.Readied u)
    (h : exec (SiliconFlow.fetchBalance w.storedKey) u = (.ok found, v)) :
    found = SiliconFlow.accountOf w.storedKey w.outcome := by
  obtain ⟨d, p, kept, rfl⟩ := hu
  have haccount := fetchBalance_account h
  exact haccount

theorem reply_balance (h : exec Command.balance.run w = (.ok reply, v)) :
    reply = .balance (SiliconFlow.accountOf w.storedKey w.outcome) := by
  rw [Command.run, exec_bind_ok (exec_storedKey w)] at h
  obtain ⟨found, _, hfetched, h⟩ := exec_bind_eq_ok h
  rw [← (World.Readied.refl w).account hfetched]
  exact (Except.ok.inj (congrArg Prod.fst h)).symm

theorem reply_getSettings (h : exec Command.getSettings.run w = (.ok reply, v)) :
    ∃ view, reply = .settings view ∧
      view.balance = SiliconFlow.accountOf w.storedKey w.outcome := by
  obtain ⟨view, hreply, -, u, x, hu, hfetched⟩ := exec_getSettings_eq_ok h
  exact ⟨view, hreply, hu.account hfetched⟩

theorem reply_availableModels (h : exec Command.availableModels.run w = (.ok reply, v)) :
    ∃ offers, reply = .offers offers ∧
      offers.balance = SiliconFlow.accountOf w.storedKey w.outcome := by
  obtain ⟨u, ⟨d, p, kept, rfl⟩, h⟩ := exec_counterPath_readied h
  obtain ⟨offers, _, hoffers, h⟩ := exec_bind_eq_ok h
  obtain ⟨x, _, _, _, hx, hfetched, -⟩ := runAvailableModels_parts hoffers
  have haccount := hx.account hfetched
  exact ⟨offers, (Except.ok.inj (congrArg Prod.fst h)).symm, haccount⟩

/-- What is shown of an account depends on the key and on the outcome of the question about it
alone. It is known exactly if there is a key and the answer is one of success that holds JSON. The
balance and the settings are answered in any case, if the question can be asked and what is wrong
with its answer can be worded. All answers show the same amounts, the offers in each entry of
SiliconFlow too, or all of them show none. -/
theorem account_shown (w : World) :
    (∀ b, SiliconFlow.accountOf w.storedKey w.outcome = some b ↔
      w.storedKey ≠ "" ∧ ∃ r report, w.outcome = .response r ∧ 200 ≤ r.status ∧ r.status < 300 ∧
        Response.jsonOfBytes r.body = .ok report ∧ b = .ofReport report) ∧
    ((w.storedKey ≠ "" → w.Inquires) →
      (∃ reply v, exec Command.balance.run w = (.ok reply, v)) ∧
        ∀ t p, w.Attends t p → ∃ reply v, exec Command.getSettings.run w = (.ok reply, v)) ∧
    (∀ reply v, exec Command.balance.run w = (.ok reply, v) →
      reply.toJson.ShowsAccount "total_balance" "charge_balance"
          (SiliconFlow.accountOf w.storedKey w.outcome) ∧
        reply.toJson.member? "voucher_balance" =
          (SiliconFlow.accountOf w.storedKey w.outcome).map fun b => .str b.voucher) ∧
    (∀ reply v, exec Command.getSettings.run w = (.ok reply, v) →
      reply.toJson.ShowsAccount "sf_balance" "sf_charge_balance"
        (SiliconFlow.accountOf w.storedKey w.outcome)) ∧
    ∀ reply v, exec Command.availableModels.run w = (.ok reply, v) →
      reply.toJson.ShowsAccount "sf_balance" "sf_charge_balance"
          (SiliconFlow.accountOf w.storedKey w.outcome) ∧
        reply.toJson.member? "voucher_balance" =
          ((SiliconFlow.accountOf w.storedKey w.outcome).map fun b => .str b.voucher) ∧
        ∃ entries, reply.toJson.member "models" = .arr entries ∧ ∀ entry ∈ entries,
          (∃ id, entry.member "id" = .str ("simpletex:" ++ id)) ∧
              entry.ShowsAccount "total_balance" "charge_balance" none ∨
            (∃ id, entry.member "id" = .str ("siliconflow:" ++ id)) ∧
              entry.ShowsAccount "total_balance" "charge_balance"
                (SiliconFlow.accountOf w.storedKey w.outcome) := by
  refine ⟨fun b => SiliconFlow.accountOf_eq_some, fun hinquires => ⟨?_, fun t p hw => ?_⟩,
    fun reply v h => ?_, fun reply v h => ?_, fun reply v h => ?_⟩
  · obtain ⟨v, hfetched⟩ := exec_fetchBalance_inquires hinquires
    exact ⟨_, v, (exec_bind_ok (exec_storedKey w) _).trans (exec_bind_ok hfetched _)⟩
  · have hpath : exec (discard counterPath) w = (.ok PUnit.unit, w) :=
      (exec_bind_ok (exec_counterPath hw.2) _).trans rfl
    obtain ⟨view, v, hview⟩ := exec_runGetSettings_inquires hw hinquires
    exact ⟨_, v, (exec_bind_ok hpath _).trans (exec_bind_ok hview _)⟩
  · rw [reply_balance h]
    refine ⟨Reply.showsAccount _, ?_⟩
    cases SiliconFlow.accountOf w.storedKey w.outcome <;> rfl
  · obtain ⟨view, rfl, haccount⟩ := reply_getSettings h
    exact haccount ▸ view.showsAccount
  · obtain ⟨offers, rfl, haccount⟩ := reply_availableModels h
    rw [← haccount]
    refine ⟨offers.showsAccount, offers.member_voucher, _, rfl, fun entry hentry => ?_⟩
    rcases List.mem_append.1 hentry with hquota | hpriced
    · obtain ⟨o, -, rfl⟩ := List.mem_map.1 hquota
      exact .inl ⟨⟨_, rfl⟩, o.showsAccount⟩
    · obtain ⟨o, -, rfl⟩ := List.mem_map.1 hpriced
      exact .inr ⟨⟨_, rfl⟩, o.showsAccount offers.balance⟩

/-- A service in English with both credentials, about to be told of an account and of one model. -/
def funded : World :=
  { offering with
    network := [
      .response ⟨200, Encoding.Utf8.encodeString (written [("data", .obj
        [("chargeBalance", .str "5"), ("totalBalance", .int 7)])])⟩,
      .response ⟨200, Encoding.Utf8.encodeString
        (written [("data", .arr [.obj [("id", .str "Qwen/Qwen-VL")]])])⟩] }

theorem translator_funded : funded.translator = .ok inEnglish := by
  have hlanguage : funded.configuration.language = "en" := by decide +kernel
  rw [World.translator, hlanguage]
  exact load_english installed_install

theorem account_shown_funded :
    (∃ reply v, exec Command.balance.run funded = (.ok reply, v) ∧
      reply.toJson.ShowsAccount "total_balance" "charge_balance" (some ⟨"5", "7"⟩) ∧
      reply.toJson.member? "voucher_balance" = some (.str "2.0000")) ∧
    (∃ reply v, exec Command.getSettings.run funded = (.ok reply, v) ∧
      reply.toJson.ShowsAccount "sf_balance" "sf_charge_balance" (some ⟨"5", "7"⟩)) ∧
    ∃ reply v, exec Command.availableModels.run funded = (.ok reply, v) ∧
      reply.toJson.ShowsAccount "sf_balance" "sf_charge_balance" (some ⟨"5", "7"⟩) := by
  obtain ⟨-, hruns, hbalance, hsettings, hmodels⟩ := account_shown funded
  have haccount : SiliconFlow.accountOf funded.storedKey funded.outcome = some ⟨"5", "7"⟩ := by
    decide +kernel
  have hvoucher : SiliconFlow.Balance.voucher ⟨"5", "7"⟩ = "2.0000" := by decide +kernel
  obtain ⟨x, htimeout⟩ := serving_overconfident.timeout
  have hinquires : funded.Inquires :=
    inquires_of_complete complete_inEnglish translator_funded htimeout trivial
  obtain ⟨⟨reply, v, hreply⟩, hviewed⟩ := hruns fun _ => hinquires
  obtain ⟨shown, u, hshown⟩ := hviewed _ _ ⟨translator_funded, rfl⟩
  obtain ⟨offered, y, hoffered⟩ := exec_eq_ok (a := Command.availableModels.run) (w := funded)
    (by decide +kernel)
  have hfound := hbalance reply v hreply
  have hseen := hsettings shown u hshown
  have hlisted := (hmodels offered y hoffered).1
  rw [haccount] at hfound hseen hlisted
  exact ⟨⟨reply, v, hreply, hfound.1, hfound.2.trans (by rw [← hvoucher]; rfl)⟩,
    ⟨shown, u, hshown, hseen⟩, offered, y, hoffered, hlisted⟩

/-- Whatever comes of the call about the account, the balance is answered. -/
def World.Tolerates (w : World) : Prop :=
  SiliconFlow.FromNetwork w.outcome → ∃ reply v, exec Command.balance.run w = (.ok reply, v)

/-- The same service, told to wait for no number of seconds. -/
def fundedMistimed : World :=
  { funded with configuration := mistimed.configuration }

/-- A service with a key and with a table in which the message of a failed call cannot be filled in,
while the network is down. -/
def fundedMisworded : World :=
  { misworded with
    network := [.interrupted ⟨"ConnectError", "down"⟩]
    store := funded.store }

/-- The balance can be lost to a bad timeout, and to a message that cannot be filled in. -/
theorem not_tolerates :
    (¬ ∀ (w : World) (t : Translator), w.translator = .ok t → t.Complete → w.Tolerates) ∧
      ¬ ∀ (w : World) (x : Binary64), w.configuration.timeout = .ok x → w.Tolerates := by
  constructor
  · intro hclaim
    have htranslator : fundedMistimed.translator = .ok inEnglish := by
      have hlanguage : fundedMistimed.configuration.language = "en" := by decide +kernel
      rw [World.translator, hlanguage]
      exact load_english installed_install
    obtain ⟨reply, v, hreply⟩ := hclaim _ _ htranslator complete_inEnglish trivial
    have hnone : (exec Command.balance.run fundedMistimed).1.toOption.isNone = true := by
      decide +kernel
    rw [hreply] at hnone
    exact nomatch hnone
  · intro hclaim
    have htimeout : fundedMisworded.configuration.timeout =
        .ok (.finite false (120 * Binary64.unitsPerOne)) := eq_ok_of_toOption (by decide +kernel)
    have hnetwork : SiliconFlow.FromNetwork fundedMisworded.outcome :=
      (by decide : Interruption.isNetwork ⟨"ConnectError", "down"⟩ = true)
    obtain ⟨reply, v, hreply⟩ := hclaim _ _ htimeout hnetwork
    have hnone : (exec Command.balance.run fundedMisworded).1.toOption.isNone = true := by
      decide +kernel
    rw [hreply] at hnone
    exact nomatch hnone

end FormulaOcr
