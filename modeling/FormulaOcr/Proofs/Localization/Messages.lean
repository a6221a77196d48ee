import FormulaOcr.Proofs.Localization.Shipped
import FormulaOcr.Recognition.Selection
import FormulaOcr.SiliconFlow.Answer
import FormulaOcr.SimpleTex.Answer

/-! The messages of the service. Whatever it complains of, the message is built in, and it mentions
the values that come with the complaint. -/

namespace FormulaOcr

open FormulaOcr.Localization

namespace Localization

/-- A built-in message, and the names of the values that it mentions. -/
def Message (key : String) (names : List String) : Prop :=
  key ∈ builtIn.map (·.1) ∧ (names = [] ∨ (key, names) ∈ valued)

instance (key : String) (names : List String) : Decidable (Message key names) :=
  inferInstanceAs (Decidable (_ ∧ _))

theorem message_of_valued {key : String} {names : List String} (h : (key, names) ∈ valued) :
    Message key names := by
  have hsub : ∀ entry ∈ valued, entry.1 ∈ builtIn.map (·.1) := by decide
  exact ⟨hsub _ h, .inr h⟩

/-- A message that is known to mention one value may come with any. -/
theorem valued_one {key name : String} (h : (key, [name]) ∈ valued) (value : Json) :
    (key, Dictionary.keys [(name, value)]) ∈ valued :=
  h

/-- The values of a message are none, or those that it is known to mention. -/
theorem Message.mentions {key : String} {values : Dictionary Json}
    (h : Message key values.keys) : values = [] ∨ (key, values.keys) ∈ valued :=
  h.2.imp_left fun hnone => by simpa [Dictionary.keys] using hnone

/-- No value goes by a name that a translator uses for its own arguments. -/
theorem own_of_valued {key : String} {names : List String} (h : (key, names) ∈ valued) :
    names.find? ["self", "key"].contains = none := by
  have hall : valued.all
      (fun entry => (entry.2.find? ["self", "key"].contains).isNone) = true := by
    decide
  exact Option.isNone_iff_eq_none.1 (List.all_eq_true.1 hall _ h)

/-- What a translator says for a message. -/
def Translator.say (t : Translator) (key : String) (values : Dictionary Json) : String :=
  ((t.translate key values).toOption.getD .null).display

end Localization

/-- A message is worded as its translator says. -/
theorem Action.exec_wording_said {w : World} {t : Translator} (hcomplete : t.Complete)
    (ht : w.translator = .ok t) {key : String} {values : Dictionary Json}
    (h : values = [] ∨ (key, values.keys) ∈ valued) :
    exec (wording key values) w = (.ok (t.say key values), w.spoken) := by
  have hown : values.keys.find? ["key"].contains = none := by
    rcases h with rfl | h
    · rfl
    · exact key_own (own_of_valued h)
  obtain ⟨j, hj⟩ : ∃ j, t.translate key values = .ok j := by
    rcases h with rfl | h
    · exact words_nil t key [] rfl
    · exact hcomplete _ _ h values rfl
  rw [exec_wording ht hown hj, Translator.say, hj]
  rfl

namespace Complaint

/-- A complaint that mentions no values, or those that its message is known to mention. -/
def Listed (c : Complaint) : Prop :=
  c.values = [] ∨ (c.key, c.values.keys) ∈ valued

/-- A complaint with a message of the service. -/
def Known (c : Complaint) : Prop :=
  Message c.key c.values.keys

instance (c : Complaint) : Decidable c.Known :=
  inferInstanceAs (Decidable (Message _ _))

theorem Known.listed {c : Complaint} (h : c.Known) : c.Listed :=
  h.mentions

theorem known_one {kind : FailureKind} {key name : String} {value : Json}
    (h : (key, [name]) ∈ valued) : Known ⟨kind, key, [(name, value)]⟩ :=
  message_of_valued h

end Complaint

/-- A process that speaks with a complete table has words for all that it complains of. -/
theorem voices_of_complete {w : World} {t : Translator} (hcomplete : t.Complete)
    (ht : w.translator = .ok t) {c : Complaint} (hc : c.Listed) : w.Voices c := by
  rcases hc with hnone | hvalued
  · obtain ⟨j, hj⟩ := words_nil t c.key [] rfl
    exact ⟨t, j, ht, by rw [hnone, hj]⟩
  · obtain ⟨j, hj⟩ := hcomplete _ _ hvalued c.values rfl
    exact ⟨t, j, ht, hj⟩

theorem known_parse {raw : Json} {c : Complaint} (h : Mode.parse raw = .error c) : c.Known := by
  unfold Mode.parse at h
  split at h
  · simp at h
  · obtain rfl := Except.error.inj h
    exact Complaint.known_one (by decide)

theorem known_select {selector : String} {mode : Mode} {hasToken : Bool} {c : Complaint}
    (h : Recognition.select selector mode hasToken = .error c) : c.Known := by
  unfold Recognition.select at h
  split at h
  · split at h
    · simp at h
    · obtain rfl := Except.error.inj h
      exact Complaint.known_one (by decide)
  · split_ifs at h

theorem known_json {r : Response} {c : Complaint} (h : r.json = .error (.complaint c)) :
    c.Known := by
  unfold Response.json at h
  cases hbody : Response.jsonOfBytes r.body with
  | ok j => simp [hbody, Except.mapError] at h
  | error f =>
    rw [hbody] at h
    obtain rfl := Problem.complaint.inj (Except.error.inj h)
    exact Complaint.known_one (by decide)

namespace SiliconFlow

/-- A refusal is about the size of the picture, in the words of the provider, or about the status
alone. -/
theorem refusal_cases (r : Response) :
    refusal r = .imageTooSmall ∨
      ∃ kind, refusal r = .callRefused kind r.status ∨
        ∃ message, refusal r = .callRefusedBecause kind message := by
  unfold refusal
  dsimp only
  generalize (if r.status = 401 then .auth else .provider : FailureKind) = kind
  split
  · next message _ =>
    split_ifs
    · exact .inr ⟨kind, .inl rfl⟩
    · exact .inl rfl
    · exact .inr ⟨kind, .inr ⟨message, rfl⟩⟩
  · exact .inr ⟨kind, .inl rfl⟩

theorem known_refusal (r : Response) : (refusal r).Known := by
  rcases refusal_cases r with h | ⟨kind, h | ⟨message, h⟩⟩
  · rw [h]
    decide
  · rw [h]
    exact Complaint.known_one (by decide)
  · rw [h]
    exact Complaint.known_one (by decide)

theorem known_payload {r : Response} {c : Complaint} (h : payload r = .error (.complaint c)) :
    c.Known := by
  unfold payload at h
  split_ifs at h
  · exact known_json h
  · obtain rfl := Problem.complaint.inj (Except.error.inj h)
    exact known_refusal r

theorem known_reading {r : Response} {c : Complaint} (h : reading r = .error (.complaint c)) :
    c.Known := by
  unfold reading at h
  cases hpayload : payload r with
  | ok j => simp [hpayload, Except.map] at h
  | error p =>
    rw [hpayload] at h
    obtain rfl := Except.error.inj h
    exact known_payload hpayload

theorem known_listing {r : Response} {c : Complaint} (h : listing r = .error (.complaint c)) :
    c.Known := by
  unfold listing at h
  cases hpayload : payload r with
  | ok j =>
    simp only [hpayload, bind, Except.bind, modelIds] at h
    split_ifs at h
    split at h <;> simp at h
  | error p =>
    rw [hpayload] at h
    obtain rfl := Except.error.inj h
    exact known_payload hpayload

end SiliconFlow

namespace SimpleTex

theorem known_complaintFor (code : String) : (complaintFor code).Known := by
  unfold complaintFor
  split_ifs
  · decide
  · decide
  · exact Complaint.known_one (by decide)

theorem known_decodeImage {image : String} {c : Complaint} (h : decodeImage image = .error c) :
    c.Known := by
  unfold decodeImage at h
  dsimp only at h
  split_ifs at h
  · obtain rfl := Except.error.inj h
    decide
  · cases hdecode : Encoding.Base64.decode (Text.trim (imageData image).toList) with
    | ok bytes => simp [hdecode, Except.mapError] at h
    | error f =>
      rw [hdecode] at h
      obtain rfl := Except.error.inj h
      exact Complaint.known_one (by decide)

theorem known_refusal (r : Response) : (refusal r).Known := by
  have hstatus : (Complaint.uploadRefused r.status).Known := Complaint.known_one (by decide)
  unfold refusal
  split_ifs
  · exact known_complaintFor unauthorized
  · split
    · split_ifs
      · exact known_complaintFor _
      · exact hstatus
    · exact hstatus

/-- A confidence that cannot be had is nothing to complain of. -/
theorem confidence_error {result : Json} {p : Problem} (h : confidence result = .error p) :
    p = .crash .numberTooLarge := by
  unfold confidence at h
  -- under a name of its own, the conversion is not computed on the way
  obtain ⟨convert, hconvert⟩ : ∃ convert, Binary64.ofInt = convert := ⟨_, rfl⟩
  rw [hconvert] at h
  split at h
  · split at h
    · exact (Except.error.inj h).symm
    · simp at h
  · simp at h
  · simp at h
  · simp at h

theorem known_reading {r : Response} {c : Complaint} (h : reading r = .error (.complaint c)) :
    c.Known := by
  unfold reading at h
  by_cases hsuccess : r.isSuccess = true
  · rw [hsuccess] at h
    cases hjson : r.json with
    | error p =>
      rw [hjson] at h
      obtain rfl : p = .complaint c := Except.error.inj h
      exact known_json hjson
    | ok payload =>
      rw [hjson] at h
      cases payload with
      | obj members =>
        cases hstatus : ((Json.obj members).member "status").isTrue with
        | false =>
          simp only [hstatus, bind, Except.bind] at h
          obtain rfl := Problem.complaint.inj (Except.error.inj h)
          exact known_complaintFor _
        | true =>
          simp only [hstatus, bind, Except.bind] at h
          cases hconfidence : confidence (((Json.obj members).member "res").orElse (.obj [])) with
          | ok x =>
            rw [hconfidence] at h
            exact nomatch h
          | error p =>
            rw [hconfidence] at h
            obtain rfl : p = .complaint c := Except.error.inj h
            exact nomatch confidence_error hconfidence
      | _ =>
        obtain rfl := Problem.complaint.inj (Except.error.inj h)
        exact Complaint.known_one (by decide)
  · rw [Bool.not_eq_true] at hsuccess
    rw [hsuccess] at h
    obtain rfl := Problem.complaint.inj (Except.error.inj h)
    exact known_refusal r

end SimpleTex

end FormulaOcr
