import FormulaOcr.Proofs.Channel.Replies
import FormulaOcr.Proofs.Leads
import FormulaOcr.Proofs.Session.Steady

/-! Credentials in the store. A credential that is saved as a text without a complaint is stored,
and the settings show that there is one until another one is given for the same provider. -/

namespace FormulaOcr

open FormulaOcr.Action

namespace Dictionary

theorem find?_merge_of_notMem {α : Type} {d later : Dictionary α} {key : String}
    (h : key ∉ later.keys) : (d.merge later).find? key = d.find? key := by
  induction later generalizing d with
  | nil => rfl
  | cons entry later ih =>
    rw [keys_cons, List.mem_cons, not_or] at h
    have hstep : d.merge (entry :: later) = (d.assign entry.1 entry.2).merge later := rfl
    rw [hstep, ih h.2, find?_assign_of_ne d entry.2 (Ne.symm h.1)]

end Dictionary

/-- Adding the defaults changes nothing that is there, which is not missing. -/
theorem Store.find?_merge_missing {values : Dictionary Json} {name : String} {value : Json}
    (h : values.find? name = some value) :
    (values.merge (Store.missing values)).find? name = some value := by
  have hnot : name ∉ Dictionary.keys (Store.missing values) := by
    intro hmem
    obtain ⟨entry, hentry, rfl⟩ := List.mem_map.1 hmem
    have hthere : (!values.has entry.1) = true := (List.mem_filter.1 hentry).2
    rw [Dictionary.has_eq_isSome_find?, h] at hthere
    cases hthere
  rw [Dictionary.find?_merge_of_notMem hnot, h]

/-! Steps that leave a stored text alone. -/

/-- The store is open and holds a text under a name. -/
def World.Bears (name text : String) (w : World) : Prop :=
  ∃ s, w.store = some s ∧ s.text name = text

/-- A property of worlds with an open store is kept when the store would be opened. -/
theorem opens_of_store {P : World → Prop} (hP : ∀ w, P w → w.store.isSome = true) :
    Opens (Only P) (Only P) where
  within _ _ hR := hR
  opens w v hR := by
    obtain ⟨rfl, hw⟩ := hR
    obtain ⟨s, hs⟩ := Option.isSome_iff_exists.1 (hP w hw)
    rw [exec_openStore_some hs]
    exact ⟨rfl, ⟨rfl, hw⟩, fun _ => ⟨rfl, hw⟩⟩

theorem World.Bears.of_store {name text : String} {w v : World} (hstore : v.store = w.store)
    (h : w.Bears name text) : v.Bears name text := by
  rwa [World.Bears, hstore]

theorem store_setStored {w : World} {s : Store} (hs : w.store = some s) (name : String)
    (value : Json) :
    (exec (setStored name value) w).2.store =
      some { s with values := s.values.assign name value } := by
  rw [exec_setStored hs, exec_saveStore]
  obtain ⟨d, hd⟩ := exec_writeFile_snd s.path (Store.fileText (s.values.assign name value))
    { w with store := some { s with values := s.values.assign name value } }
  rw [hd]

theorem bears_setStored {w : World} (hopen : w.store.isSome = true) (name text : String) :
    (exec (setStored name (.str text)) w).2.Bears name text := by
  obtain ⟨s, hs⟩ := Option.isSome_iff_exists.1 hopen
  refine ⟨_, store_setStored hs name _, ?_⟩
  simp [Store.text, Store.get?, Json.text?]

theorem World.Bears.setStored {w : World} {name text other : String} (h : w.Bears name text)
    (hne : other ≠ name) (value : Json) :
    (exec (setStored other value) w).2.Bears name text := by
  obtain ⟨s, hs, htext⟩ := h
  refine ⟨_, store_setStored hs other value, ?_⟩
  rw [← htext, Store.text, Store.get?, Dictionary.find?_assign_of_ne s.values value hne]
  rfl

theorem World.Bears.ensureDefaults {w : World} {name text : String} (htext : text ≠ "")
    (h : w.Bears name text) : (exec ensureDefaults w).2.Bears name text := by
  obtain ⟨s, hs, hbears⟩ := h
  rw [exec_ensureDefaults hs]
  split_ifs with hempty
  · exact ⟨s, hs, hbears⟩
  · rw [exec_saveStore]
    obtain ⟨d, hd⟩ := exec_writeFile_snd s.path
      (Store.fileText (s.values.merge (Store.missing s.values)))
      { w with store := some { s with values := s.values.merge (Store.missing s.values) } }
    rw [hd]
    refine ⟨_, rfl, ?_⟩
    obtain ⟨value, hvalue⟩ : ∃ value, s.values.find? name = some value := by
      cases hfind : s.values.find? name with
      | some value => exact ⟨value, rfl⟩
      | none =>
        rw [Store.text, Store.get?, hfind] at hbears
        exact absurd hbears.symm htext
    rw [← hbears, Store.text, Store.text, Store.get?, Store.get?,
      Store.find?_merge_missing hvalue, hvalue]

/-! Saving a credential. -/

/-- The one of two credentials that is for a provider. -/
def Provider.credentialOf (token key : Json) : Provider → Json
  | .simpletex => token
  | .siliconflow => key

namespace Action

variable {name text : String} {w : World}

theorem basics_bears (name text : String) : Basics (Only (World.Bears name text)) :=
  basics_of_store fun _ _ hstore hw => hw.of_store hstore

section

variable {p : Provider} {token key : Json} (htext : text ≠ "")
  (hcredential : p.credentialOf token key = .str text)
include htext hcredential

end

/-! Showing it. -/

theorem saveCredential_of_falsy {credential : Json} (h : credential.isTruthy = false)
    (p : Provider) (name complaintKey : String) :
    Command.saveCredential p name complaintKey credential = pure [] := by
  rw [Command.saveCredential, h]
  rfl

theorem conforms_bears (name : String) {text : String} (htext : text ≠ "") :
    Conforms (Only (World.Bears name text)) fun _ => False where
  toBasics := basics_bears name text
  store w v hR := by rw [hR.1]
  setStored _ _ hnone := hnone.elim
  ensureDefaults := agrees_only.2 fun _ hw => hw.ensureDefaults htext

theorem opens_bears (name text : String) :
    Opens (Only (World.Bears name text)) (Only (World.Bears name text)) :=
  opens_of_store fun w hw => by
    obtain ⟨s, hs, -⟩ := hw
    rw [hs]
    rfl

end Action

/-- A command that gives no credential for a provider. -/
def Command.Spares (p : Provider) : Command → Prop
  | .saveSettings token key _ _ => (p.credentialOf token key).isTruthy = false
  | _ => True

namespace Action

variable {text : String}

/-- A command keeps a credential if it gives no other one. -/
theorem agrees_run_bears (htext : text ≠ "") (p : Provider) {c : Command} (hc : c.Spares p) :
    Agrees (Only (World.Bears p.credentialName text)) c.run := by
  have hconforms := conforms_bears p.credentialName htext
  have hcounts (id : String) :
      Agrees (Only (World.Bears p.credentialName text)) (countRecognition id) :=
    agrees_only.2 fun w hw => hw.of_store (store_countRecognition id w)
  cases c with
  | saveSettings token key model vouchers =>
    have hset {name : String} (hne : name ≠ p.credentialName) (value : Json) :
        Agrees (Only (World.Bears p.credentialName text)) (setStored name value) :=
      agrees_only.2 fun w hw => hw.setStored hne value
    have hsaved (q : Provider) (complaintKey : String) :
        Agrees (Only (World.Bears p.credentialName text))
          (Command.saveCredential q q.credentialName complaintKey (q.credentialOf token key)) := by
      by_cases hq : q = p
      · subst hq
        rw [saveCredential_of_falsy hc]
        exact Agrees.pure []
      · have hne : q.credentialName ≠ p.credentialName := by
          cases p <;> cases q <;> first | exact absurd rfl hq | decide
        exact hconforms.saveCredential q complaintKey (hset hne _) fun _ => hset hne _
    have hmodel : Store.modelName ≠ p.credentialName := by cases p <;> decide
    have hvouchers : Store.vouchersName ≠ p.credentialName := by cases p <;> decide
    have hall := Agrees.runSaveSettings vouchers (hsaved .simpletex _) (hsaved .siliconflow _)
      (fun _ => hset hmodel model) fun ids => hset hvouchers _
    exact hall.bind fun _ => Agrees.pure _
  | _ =>
    exact hconforms.run trivial fun image mode modelId _ =>
      hconforms.runRecognize hcounts image mode modelId

end Action

/-- Credentials last over frames that give no other ones. -/
theorem World.Bears.after {w : World} {text : String} (htext : text ≠ "") {p : Provider}
    (hw : w.Bears p.credentialName text) {frames : List String}
    (hf : ∀ frame ∈ frames, ∀ c, Channel.asked (Channel.message frame) = some c → c.Spares p) :
    (FormulaOcr.after w frames).Bears p.credentialName text := by
  have hbasics := basics_bears p.credentialName text
  have hrun := Alike.connection fun frame hframe => hbasics.dispatch
    (opens_bears p.credentialName text) hbasics fun c hc =>
      agrees_run_bears htext p (hf frame hframe c hc)
  exact (hrun w w ⟨rfl, hw⟩).2.2

/-! Saving it and showing it in frames. -/

namespace Channel

/-- In a world, a frame saves a text as the credential for a provider, and is told that all is
well. -/
def Saves (p : Provider) (text : String) (w : World) (frame : String) : Prop :=
  text ≠ "" ∧
    (∃ token key model vouchers,
      asked (message frame) = some (.saveSettings token key model vouchers) ∧
        p.credentialOf token key = .str text) ∧
    ((answer frame).run w).1.member "ok" = .bool true ∧
    (((answer frame).run w).1.member "result").member "ok" = .bool true

end Channel

end FormulaOcr
