import FormulaOcr.Channel
import FormulaOcr.Proofs.Coupling

/-! Calls and replies that are alike. Calls may differ in the credential that they carry, replies in
the words of messages. If the words are the same, so are the replies. -/

namespace FormulaOcr

/-- The setting that names the language. -/
def Configuration.languageName : String := "FORMULASNAP_LANG"

/-- Configurations that are the same but for the language. -/
def Configuration.Akin (c c' : Configuration) : Prop :=
  ∀ name, name ≠ languageName →
    c.attributes.find? name = c'.attributes.find? name ∧
      c.environment.find? name = c'.environment.find? name

/-- The same credential, or two texts for credentials that are alike. -/
inductive Likeness.Credential (L : Likeness) (p : Provider) : Json → Json → Prop
  | same (j : Json) : Credential L p j j
  | text {s s' : String} (h : L.credential p s s') : Credential L p (.str s) (.str s')

/-- The same call, or two calls of a provider's service with credentials that are alike. -/
inductive Call.Like (L : Likeness) : Call → Call → Prop
  | same (c : Call) : Like L c c
  | credential {p : Provider} {j j' : Json} (h : L.Credential p j j') {url : String}
      (hurl : L.address p url) (verb : Verb) (timeout : Binary64)
      (headers : List (String × Json)) (payload : Payload) :
      Like L
        { verb, url, timeout
          headers := some (Dictionary.merge (p.authHeaders j) headers), payload }
        { verb, url, timeout
          headers := some (Dictionary.merge (p.authHeaders j') headers), payload }

structure NamedModel.Like (L : Likeness) (m m' : NamedModel) : Prop where
  model : m.model = m'.model
  name : L.words m.name m'.name

structure SettingsView.Like (L : Likeness) (v v' : SettingsView) : Prop where
  hasKey : v.hasKey = v'.hasKey
  hasToken : v.hasToken = v'.hasToken
  model : v.model = v'.model
  models : List.Forall₂ (NamedModel.Like L) v.models v'.models
  usage : v.usage = v'.usage
  balance : v.balance = v'.balance
  vouchers : v.vouchers = v'.vouchers

structure QuotaOffer.Like (L : Likeness) (o o' : QuotaOffer) : Prop where
  named : o.named.Like L o'.named
  provider : L.words o.provider o'.provider
  available : o.available = o'.available
  usageToday : o.usageToday = o'.usageToday
  pricing : L.words o.pricing o'.pricing

structure PricedOffer.Like (L : Likeness) (o o' : PricedOffer) : Prop where
  model : o.model = o'.model
  provider : L.words o.provider o'.provider
  pricing : L.words o.pricing o'.pricing
  voucher : o.voucher = o'.voucher

structure Offers.Like (L : Likeness) (o o' : Offers) : Prop where
  quota : List.Forall₂ (QuotaOffer.Like L) o.quota o'.quota
  priced : List.Forall₂ (PricedOffer.Like L) o.priced o'.priced
  balance : o.balance = o'.balance

structure Probe.Like (L : Likeness) (p p' : Probe) : Prop where
  ok : p.ok = p'.ok
  error : Option.Rel L.words p.error p'.error
  balance : p.balance = p'.balance

theorem Probe.Like.error_empty_iff {L : Likeness} {p p' : Probe} (h : p.Like L p') :
    p.error = some "" ↔ p'.error = some "" := by
  have herror := h.error
  generalize p.error = e at herror
  generalize p'.error = e' at herror
  cases herror with
  | some hwords => simpa using L.words_empty_iff hwords
  | none => rfl

/-- The same result, or a text with labels for the same model. -/
inductive Recognition.Result.Like (L : Likeness) : Result → Result → Prop
  | same (r : Result) : Like L r r
  | labelled (text : String) {label label' : String} (h : L.words label label') :
      Like L { text, model := label } { text, model := label' }

/-- The same answer, but for the words of messages. -/
inductive Reply.Like (L : Likeness) : Reply → Reply → Prop
  | settings {v v' : SettingsView} (h : v.Like L v') : Like L (.settings v) (.settings v')
  | saved {errors errors' : List String} (h : List.Forall₂ L.words errors errors') :
      Like L (.saved errors) (.saved errors')
  | probed {p p' : Probe} (h : p.Like L p') : Like L (.probed p) (.probed p')
  | offers {o o' : Offers} (h : o.Like L o') : Like L (.offers o) (.offers o')
  | balance (b : Option SiliconFlow.Balance) : Like L (.balance b) (.balance b)
  | recognized {r r' : Recognition.Result} (h : r.Like L r') :
      Like L (.recognized r) (.recognized r')
  | opened (ok : Bool) : Like L (.opened ok) (.opened ok)

variable {L : Likeness} {α : Type}

theorem Likeness.there_eq (L : Likeness) {p : Provider} {s s' : String}
    (h : L.credential p s s') : (s != "") = (s' != "") := by
  simp only [bne, Bool.beq_eq_decide_eq, L.empty_iff h]

theorem Likeness.Credential.truthy {p : Provider} {j j' : Json} (h : L.Credential p j j') :
    j.isTruthy = j'.isTruthy := by
  cases h with
  | same j => rfl
  | text h => exact L.there_eq h

theorem Configuration.Akin.refl (c : Configuration) : c.Akin c :=
  fun _ _ => ⟨rfl, rfl⟩

namespace Configuration.Akin

variable {c c' : Configuration} (h : c.Akin c')
include h

theorem getOr {name : String} (hname : name ≠ languageName) (default : String) :
    c.getOr name default = c'.getOr name default := by
  obtain ⟨hattributes, henvironment⟩ := h name hname
  unfold Configuration.getOr Configuration.get?
  rw [hattributes, henvironment]

theorem endpoint {name : String} (hname : name ≠ languageName) :
    c.endpoint name = c'.endpoint name := by
  obtain ⟨hattributes, henvironment⟩ := h name hname
  unfold Configuration.endpoint Configuration.get?
  rw [hattributes, henvironment]

theorem url (p : Provider) (path : String) : p.url c path = p.url c' path := by
  have hname : p.baseSetting ≠ languageName := by cases p <;> decide
  rw [Provider.url, Provider.url, h.endpoint hname]

theorem timeout : c.timeout = c'.timeout := by
  unfold Configuration.timeout
  rw [h.getOr (by decide)]

theorem dataPath : c.dataPath = c'.dataPath := by
  unfold Configuration.dataPath
  rw [h.getOr (by decide), (h "HOME" (by decide)).2]

end Configuration.Akin

/-! What may differ in nothing is the same. -/

theorem Likeness.Credential.eq_of (hL : ∀ p s s', L.credential p s s' → s = s') {p : Provider}
    {j j' : Json} (h : L.Credential p j j') : j = j' := by
  cases h with
  | same j => rfl
  | text h => rw [hL _ _ _ h]

/-- Calls differ in credentials alone. -/
theorem Call.Like.eq_of (hL : ∀ p s s', L.credential p s s' → s = s') {c c' : Call}
    (h : c.Like L c') : c = c' := by
  cases h with
  | same c => rfl
  | credential h => rw [h.eq_of hL]

theorem NamedModel.Like.eq {m m' : NamedModel} (h : m.Like L m') (hL : L.Literal) : m = m' := by
  obtain ⟨model, name⟩ := m
  obtain ⟨model', name'⟩ := m'
  obtain ⟨hmodel, hname⟩ := h
  exact congrArg₂ NamedModel.mk hmodel (hL _ _ hname)

theorem forall₂_eq {ρ : α → α → Prop} (h : ∀ {x y}, ρ x y → x = y) {xs ys : List α}
    (hall : List.Forall₂ ρ xs ys) : xs = ys := by
  induction hall with
  | nil => rfl
  | cons hx _ ih => rw [h hx, ih]

theorem SettingsView.Like.eq {v v' : SettingsView} (h : v.Like L v') (hL : L.Literal) : v = v' := by
  obtain ⟨hkey, htoken, hmodel, hmodels, husage, hbalance, hvouchers⟩ := h
  have hmodels' := forall₂_eq (fun hlike => NamedModel.Like.eq hlike hL) hmodels
  cases v
  cases v'
  simp_all

theorem QuotaOffer.Like.eq {o o' : QuotaOffer} (h : o.Like L o') (hL : L.Literal) : o = o' := by
  obtain ⟨hnamed, hprovider, havailable, husage, hpricing⟩ := h
  have hnamed' := hnamed.eq hL
  have hprovider' := hL _ _ hprovider
  have hpricing' := hL _ _ hpricing
  cases o
  cases o'
  simp_all

theorem PricedOffer.Like.eq {o o' : PricedOffer} (h : o.Like L o') (hL : L.Literal) : o = o' := by
  obtain ⟨hmodel, hprovider, hpricing, hvoucher⟩ := h
  have hprovider' := hL _ _ hprovider
  have hpricing' := hL _ _ hpricing
  cases o
  cases o'
  simp_all

theorem Offers.Like.eq {o o' : Offers} (h : o.Like L o') (hL : L.Literal) : o = o' := by
  obtain ⟨hquota, hpriced, hbalance⟩ := h
  have hquota' := forall₂_eq (fun hlike => QuotaOffer.Like.eq hlike hL) hquota
  have hpriced' := forall₂_eq (fun hlike => PricedOffer.Like.eq hlike hL) hpriced
  cases o
  cases o'
  simp_all

theorem Probe.Like.eq {p p' : Probe} (h : p.Like L p') (hL : L.Literal) : p = p' := by
  obtain ⟨hok, herror, hbalance⟩ := h
  have herror' : p.error = p'.error := by
    generalize p.error = e at herror
    generalize p'.error = e' at herror
    cases herror with
    | some h => exact congrArg some (hL _ _ h)
    | none => rfl
  cases p
  cases p'
  simp_all

theorem Recognition.Result.Like.eq {r r' : Result} (h : r.Like L r') (hL : L.Literal) : r = r' := by
  cases h with
  | same r => rfl
  | labelled text h =>
    rw [hL _ _ h]

theorem Reply.Like.eq {r r' : Reply} (h : r.Like L r') (hL : L.Literal) : r = r' := by
  cases h with
  | settings h => rw [h.eq hL]
  | saved h => rw [forall₂_eq (hL _ _) h]
  | probed h => rw [h.eq hL]
  | offers h => rw [h.eq hL]
  | balance b => rfl
  | recognized h => rw [h.eq hL]
  | opened ok => rfl

/-- Two replies to one frame: answers that are alike, or refusals in which only the words of the
message may differ. -/
inductive Channel.Like (L : Likeness) : Json → Json → Prop
  | success (id : Json) {r r' : Reply} (h : r.Like L r') : Like L (success id r) (success id r')
  | refusal (id : Json) {e e' : Fault} (h : e.Like L e') : Like L (refusal id e) (refusal id e')

theorem Channel.Like.eq {reply reply' : Json} (h : Like L reply reply') (hL : L.Literal) :
    reply = reply' := by
  cases h with
  | success id h => rw [h.eq hL]
  | refusal id h => rw [h.eq hL]

end FormulaOcr
