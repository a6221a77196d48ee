import FormulaOcr.Proofs.Channel.Replies
import FormulaOcr.Proofs.Localization.Loading
import FormulaOcr.Proofs.Session.Abreast
import FormulaOcr.Proofs.Session.Kept

/-! One service with two credentials for a provider. Whatever the frames are, nothing that is told
depends on which of them is stored: the replies are the same, the counters and the links are, and
so are the calls but for the header in which the provider is sent its credential. -/

namespace FormulaOcr

open FormulaOcr.Action FormulaOcr.Localization

/-! What differs. -/

/-- The same value, or one credential in place of another under the name of its setting. -/
def Provider.Swaps (p : Provider) (a b name : String) (j j' : Json) : Prop :=
  j = j' ∨ name = p.credentialName ∧ j = .str a ∧ j' = .str b

/-- Stored values that are the same but for the credential for a provider. No object in them names a
member twice. -/
structure Store.Swapped (p : Provider) (a b : String) (d d' : Dictionary Json) : Prop where
  like : d.Like (p.Swaps a b) d'
  here : (Json.obj d).Distinct
  there : (Json.obj d').Distinct

/-- Translators with the same messages but for those that go by the name of a setting. -/
def Localization.Translator.Swapped (p : Provider) (a b : String) (t t' : Translator) : Prop :=
  t.messages.Like (p.Swaps a b) t'.messages

/-- The same call, or two calls of a provider's service, where it is configured to be, that are the
same but for the credential that they carry. -/
inductive Call.Swapped (p : Provider) (a b : String) (c : Configuration) : Call → Call → Prop
  | same (call : Call) : Swapped p a b c call call
  | credential (verb : Verb) (path : String) (timeout : Binary64)
      (headers : List (String × Json)) (payload : Payload) :
      Swapped p a b c
        { verb, url := p.url c path, timeout
          headers := some (Dictionary.merge (p.authHeaders (.str a)) headers), payload }
        { verb, url := p.url c path, timeout
          headers := some (Dictionary.merge (p.authHeaders (.str b)) headers), payload }

/-- Services that are the same but for the credential for a provider: in the store, in its file, in
what was sent to the provider, and in what was read from the file as if it were a table of messages.
All other files are the same. -/
structure World.Swapped (p : Provider) (a b : String) (w v : World) : Prop where
  configuration : w.configuration = v.configuration
  disk : w.disk.Like Store.filename (Holding (p.Swaps a b)) v.disk
  today : w.today = v.today
  network : w.network = v.network
  browser : w.browser = v.browser
  calls : List.Forall₂ (Call.Swapped p a b v.configuration) w.calls v.calls
  opened : w.opened = v.opened
  store : Option.Rel (fun s s' => s.path = s'.path ∧ Store.Swapped p a b s.values s'.values)
    w.store v.store
  counterPath : w.counterPath = v.counterPath
  translators : Dictionary.Like (fun _ => Translator.Swapped p a b) w.translators v.translators

section Swaps

variable {p : Provider} {a b : String}

theorem Provider.Swaps.eq {name : String} {j j' : Json} (h : p.Swaps a b name j j')
    (hname : name ≠ p.credentialName) : j = j' :=
  h.resolve_right fun hswapped => hname hswapped.1

theorem Provider.Swaps.reread {name : String} {j j' : Json} (h : p.Swaps a b name j j') :
    p.Swaps a b name (Json.reread j) (Json.reread j') := by
  rcases h with rfl | ⟨hname, rfl, rfl⟩
  · exact .inl rfl
  · exact .inr ⟨hname, by simp [Json.reread], by simp [Json.reread]⟩

namespace Store.Swapped

variable {d d' : Dictionary Json}

theorem refl (h : (Json.obj d).Distinct) : Store.Swapped p a b d d :=
  ⟨.refl (fun _ _ => .inl rfl) d, h, h⟩

theorem assign (h : Store.Swapped p a b d d') (name : String) {j : Json} (hj : j.Distinct) :
    Store.Swapped p a b (d.assign name j) (d'.assign name j) :=
  ⟨h.like.assign (.inl rfl), h.here.assign name hj, h.there.assign name hj⟩

theorem missing_eq (h : Store.Swapped p a b d d') : Store.missing d = Store.missing d' := by
  unfold Store.missing
  simp only [h.like.has_eq]

theorem withDefaults (h : Store.Swapped p a b d d') :
    Store.Swapped p a b (d.merge (Store.missing d)) (d'.merge (Store.missing d')) := by
  rw [← h.missing_eq]
  exact ⟨h.like.merge (.refl (fun _ _ => .inl rfl) _), h.here.merge (everywhere_missing d),
    h.there.merge (everywhere_missing d)⟩

/-- A setting that holds no credential for the provider is the same. -/
theorem found_eq (h : Store.Swapped p a b d d') {name : String} (hname : name ≠ p.credentialName) :
    d.find? name = d'.find? name :=
  h.like.find?_eq fun _ _ hvalue => hvalue.eq hname

/-- A stored text is the same, or one of the credentials on each side. -/
theorem text (h : Store.Swapped p a b d d') (path path' : Path) (name : String) :
    Store.text ⟨path, d⟩ name = Store.text ⟨path', d'⟩ name ∨
      name = p.credentialName ∧ Store.text ⟨path, d⟩ name = a ∧
        Store.text ⟨path', d'⟩ name = b := by
  have hfound := h.like.found name
  unfold Store.text Store.get?
  generalize d.find? name = value at hfound ⊢
  generalize d'.find? name = value' at hfound ⊢
  cases hfound with
  | none => exact .inl rfl
  | some hvalue =>
    rcases hvalue with rfl | ⟨hname, rfl, rfl⟩
    · exact .inl rfl
    · exact .inr ⟨hname, rfl, rfl⟩

/-- Written to their files, the values are read from these as values of the same kind. -/
theorem written (h : Store.Swapped p a b d d') :
    Holding (p.Swaps a b) (Encoding.Utf8.encode (Store.fileText d))
      (Encoding.Utf8.encode (Store.fileText d')) := by
  -- numbers may be spelled otherwise from then on, but credentials are texts
  refine ⟨Json.rereadMembers d, Json.rereadMembers d', ?_, ?_, ?_⟩
  · exact (Json.inBytes_written _ h.here).trans (by rw [Json.reread])
  · exact (Json.inBytes_written _ h.there).trans (by rw [Json.reread])
  · rw [Json.rereadMembers_eq, Json.rereadMembers_eq]
    exact List.rel_map (fun entry entry' hentry => ⟨hentry.1, hentry.2.reread⟩) h.like

end Store.Swapped

theorem Store.distinct_valuesOf (content : Bytes) :
    (Json.obj (Store.valuesOf (Json.inBytes content))).Distinct := by
  have hempty : (Json.obj []).Distinct := by
    simp [Json.Distinct, Json.Everywhere, Json.EverywhereMembers]
  cases hcontent : Json.inBytes content with
  | none => exact hempty
  | some j =>
    cases j with
    | obj members => exact Json.inBytes_distinct hcontent
    | _ => exact hempty

/-- What is read from files with the same bytes, or from those of two stores. -/
theorem Store.swapped_valuesOf {content content' : Bytes}
    (h : content = content' ∨ Holding (p.Swaps a b) content content') :
    Store.Swapped p a b (Store.valuesOf (Json.inBytes content))
      (Store.valuesOf (Json.inBytes content')) := by
  rcases h with rfl | ⟨d, d', hd, hd', hlike⟩
  · exact .refl (Store.distinct_valuesOf content)
  · refine ⟨?_, Store.distinct_valuesOf content, Store.distinct_valuesOf content'⟩
    rw [hd, hd']
    exact hlike

end Swaps

section Secrecy

variable {p : Provider} {a b : String} (ha : a ≠ "") (hb : b ≠ "")

/-- Two runs may differ in which of two credentials for a provider they send, to where it is
configured to be. -/
def Likeness.swapped (p : Provider) (c : Configuration) : Likeness where
  words := Eq
  credential q s s' := s = s' ∨ q = p ∧ s = a ∧ s' = b
  address q url := ∃ path, url = q.url c path
  words_refl _ := rfl
  credential_refl _ _ := .inl rfl
  words_empty_iff := @Likeness.same.words_empty_iff
  empty_iff h := by
    rcases h with rfl | ⟨-, rfl, rfl⟩
    · rfl
    · simp [ha, hb]

/-- Stores may differ in which of the credentials they hold. -/
def StoreLikeness.swapped (p : Provider) (c : Configuration) :
    StoreLikeness (.swapped ha hb p c) where
  values := Store.Swapped p a b
  file := Holding (p.Swaps a b)
  storable := Json.Distinct
  read := Store.swapped_valuesOf
  nothing := .refl (by simp [Json.Distinct, Json.Everywhere, Json.EverywhereMembers])
  written h := h.written
  assign name _ h hj := h.assign name hj
  defaults h := ⟨h.missing_eq, h.withDefaults⟩
  credential q path path' h := by
    rcases h.text path path' q.credentialName with hsame | ⟨hname, hhere, hthere⟩
    · exact .inl hsame
    · refine .inr ⟨?_, hhere, hthere⟩
      revert hname
      cases q <;> cases p <;> decide
  other h hname := h.found_eq fun hcredential => by
    subst hcredential
    revert hname
    cases p <;> decide

theorem Call.swapped_iff {c : Configuration} {call call' : Call} :
    Call.Like (.swapped ha hb p c) call call' ↔ Call.Swapped p a b c call call' := by
  constructor
  · intro h
    cases h with
    | same call => exact .same call
    | credential hj hurl =>
      obtain ⟨path, rfl⟩ := hurl
      cases hj with
      | same j => exact .same _
      | text hs =>
        rcases hs with rfl | ⟨rfl, rfl, rfl⟩
        · exact .same _
        · exact .credential _ _ _ _ _
  · intro h
    cases h with
    | same call => exact .same call
    | credential verb path =>
      have haddress : (Likeness.swapped ha hb p c).address p (p.url c path) := ⟨path, rfl⟩
      exact .credential (.text (Or.inr ⟨rfl, rfl, rfl⟩)) haddress _ _ _ _

/-- A world whose state files have their names, and whose service is configured in some way. -/
def World.Configured (c : Configuration) (w : World) : Prop :=
  w.Chosen ∧ w.configuration = c

theorem steady_configured (c : Configuration) : Steady (World.Configured c) fun _ => True :=
  steady_chosen.configured c

/-- Two services side by side, one with each of the credentials. -/
def Apart (p : Provider) (c : Configuration) : World → World → Prop :=
  Paired
    (Abreast (.swapped ha hb p c) (Dictionary.Like fun _ => Translator.Swapped p a b))
    (World.Configured c) (World.Configured c)

variable {ha hb} {c : Configuration} {w v : World}

namespace Apart

theorem swapped (h : Apart ha hb p c w v) : World.Swapped p a b w v := by
  refine ⟨h.2.1.2.trans h.2.2.2.symm, h.1.disk, h.1.today, h.1.network, h.1.browser, ?_,
    h.1.opened, h.1.store, h.1.counterPath, h.1.translators⟩
  rw [h.2.2.2]
  exact h.1.calls.imp fun _ _ hcall => (Call.swapped_iff ha hb).1 hcall

/-- The translators that the two sides speak with. -/
theorem loads_translator (h : Apart ha hb p c w v) :
    Loads (Translator.Swapped p a b) w.translator v.translator := by
  have hlanguage : w.configuration = v.configuration := h.2.1.2.trans h.2.2.2.symm
  have hkept := h.1.translators.found v.configuration.language
  unfold Dictionary.find? at hkept
  unfold World.translator
  rw [hlanguage]
  generalize w.translators.lookup v.configuration.language = kept at hkept ⊢
  generalize v.translators.lookup v.configuration.language = kept' at hkept ⊢
  cases hkept with
  | some ht => exact .ok ht
  | none =>
    -- the file of the store may be the table of the language, so the translators may differ
    exact loads_load (fun _ _ => .inl rfl) (fun _ _ hfile => hfile) h.1.disk directory _ _ _

theorem spoken (h : Apart ha hb p c w v) : Apart ha hb p c w.spoken v.spoken := by
  have hlanguage : w.configuration = v.configuration := h.2.1.2.trans h.2.2.2.symm
  have hkept := h.1.translators.found v.configuration.language
  have hloads := h.loads_translator
  refine ⟨h.1.spoken ?_, (steady_configured c).spoken w h.2.1, (steady_configured c).spoken v h.2.2⟩
  unfold Dictionary.find? at hkept
  unfold World.spoken
  rw [hlanguage]
  generalize w.translator = found at hloads ⊢
  generalize v.translator = found' at hloads ⊢
  generalize w.translators.lookup v.configuration.language = kept at hkept ⊢
  generalize v.translators.lookup v.configuration.language = kept' at hkept ⊢
  cases hkept with
  | some ht => exact h.1.translators
  | none =>
    cases hloads with
    | ok ht => exact h.1.translators.append (.cons ⟨rfl, ht⟩ .nil)
    | error e => exact h.1.translators

/-- A message that does not go by the name of the setting is worded the same. -/
theorem wording {key : String} (hkey : key ≠ p.credentialName) (values : Dictionary Json) :
    Couples (.swapped ha hb p c) (Apart ha hb p c) Eq (Action.wording key values)
      (Action.wording key values) := by
  have htranslator : Couples (.swapped ha hb p c) (Apart ha hb p c) (Translator.Swapped p a b)
      translator translator := by
    intro w v h
    rw [exec_translator, exec_translator]
    refine ⟨?_, h.spoken⟩
    have hloads := h.loads_translator
    generalize w.translator = found at hloads ⊢
    generalize v.translator = found' at hloads ⊢
    cases hloads with
    | ok ht => exact .ok ht
    | error e => exact .error (.refl _)
  have htranslate (t t' : Translator) (h : Translator.Swapped p a b t t') :
      t.translate key values = t'.translate key values := by
    have hfound : t.messages.find? key = t'.messages.find? key :=
      Dictionary.Like.find?_eq h fun _ _ hmessage => hmessage.eq hkey
    unfold Translator.translate
    rw [hfound]
  have hwords : Couples (.swapped ha hb p c) (Apart ha hb p c) Eq (translate key values)
      (translate key values) := by
    refine Couples.after (Agrees.ofCrash _) fun _ => htranslator.bind fun t t' ht => ?_
    rw [htranslate t t' ht]
    exact (Agrees.ofCrash _).couples
  refine hwords.bind ?_
  rintro j _ rfl
  exact Couples.pure rfl

theorem worded : Worded (.swapped ha hb p c) (Apart ha hb p c) where
  wording {key values} hmessage := by
    have hbuiltIn : ∀ entry ∈ builtIn, entry.1 ≠ p.credentialName := by cases p <;> decide
    obtain ⟨entry, hentry, rfl⟩ := List.mem_map.1 hmessage.1
    exact wording (hbuiltIn entry hentry) values
  label {name name'} hname := by
    have hsame : name = name' := hname
    rw [hsame]
    exact wording (by cases p <;> decide) _

end Apart

end Secrecy

/-- A service that holds a key, and a network that holds an answer ready. -/
def keyed (key : String) : World :=
  { configuration := ⟨[("FORMULASNAP_DATA_DIR", .str "/data")], []⟩
    disk := ⟨[]⟩, today := "2026-03-01", network := [.response ⟨401, []⟩], browser := true
    calls := [], opened := []
    store := some ⟨⟨"/", ["data", Store.filename]⟩, [(Store.keyName, .str key)]⟩
    counterPath := none, translators := [] }

end FormulaOcr
