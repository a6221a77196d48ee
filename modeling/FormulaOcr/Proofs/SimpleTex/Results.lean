import FormulaOcr.Proofs.Json.RoundTrip
import FormulaOcr.SimpleTex.Answer

/-! The text in a result. A result can hold it at six places, of which the first one that holds a
text counts, and what stands there is taken as it is. An information part without a text of its own
is handed out whole, as JSON from which it can be read again. -/

namespace FormulaOcr.SimpleTex

variable {result : Json} {members info : Dictionary Json}

/-- What the information part of a result can be taken for: the text that it is, its Markdown, its
plain text, or the JSON text of all of it. -/
def informationReadings (information : Json) : List (Option String) :=
  [information.text?, (information.member "markdown").text?, (information.member "text").text?,
    information.members?.map fun info => String.ofList (Json.write Json.oneLine (.obj info))]

/-- What a result can be taken for, the first reading first. -/
def readings (result : Json) : List (Option String) :=
  informationReadings (result.member "info") ++
    [(result.member "markdown").text?, (result.member "latex").text?]

theorem text_member (members : Dictionary Json) (name : String) :
    ((Json.obj members).member name).text? = (members.find? name).bind Json.text? := by
  rw [Json.member, Json.member?]
  cases members.find? name <;> rfl

theorem firstMember_eq (members : Dictionary Json) (names : List String) :
    firstMember? members names =
      (names.map fun name => ((Json.obj members).member name).text?).findSome? id := by
  simp only [firstMember?, List.findSome?_map, text_member]
  rfl

theorem informationText_eq (members : Dictionary Json) :
    informationText? members =
      (informationReadings ((Json.obj members).member "info")).findSome? id := by
  rw [informationText?, Json.member, Json.member?]
  cases members.find? "info" with
  | none => rfl
  | some information =>
    cases information with
    | obj info =>
      have hown : firstMember? info ["markdown", "text"] =
          [((Json.obj info).member "markdown").text?,
            ((Json.obj info).member "text").text?].findSome? id := firstMember_eq _ _
      -- the texts that it holds stand in front of the text of all of it
      change _ = ([((Json.obj info).member "markdown").text?, ((Json.obj info).member "text").text?]
        ++ [some (String.ofList (Json.write Json.oneLine (.obj info)))]).findSome? id
      rw [List.findSome?_append, ← hown]
      dsimp only
      cases firstMember? info ["markdown", "text"] <;> rfl
    | _ => rfl

theorem resultText_eq (result : Json) :
    resultText result = ((readings result).findSome? id).getD "" := by
  cases result with
  | obj members =>
    have htop : firstMember? members ["markdown", "latex"] =
        [((Json.obj members).member "markdown").text?,
          ((Json.obj members).member "latex").text?].findSome? id := firstMember_eq _ _
    rw [readings, List.findSome?_append, ← informationText_eq, ← htop, resultText]
    cases informationText? members <;> rfl
  | _ => rfl

/-- An information part that is an object without Markdown and text is handed out as JSON. -/
theorem resultText_of_information (h : result.member? "info" = some (.obj info))
    (hbare : ∀ name ∈ ["markdown", "text"], ((Json.obj info).member name).text? = none) :
    resultText result = String.ofList (Json.write Json.oneLine (.obj info)) := by
  have hinfo : result.member "info" = .obj info := by rw [Json.member, h, Option.getD_some]
  rw [resultText_eq, readings, hinfo, informationReadings, hbare "markdown" (by simp),
    hbare "text" (by simp)]
  rfl

theorem read_resultText (h : result.member? "info" = some (.obj info))
    (hbare : ∀ name ∈ ["markdown", "text"], ((Json.obj info).member name).text? = none)
    (hsound : (Json.obj info).Sound) :
    Json.read (resultText result).toList = .ok (.obj info) := by
  rw [resultText_of_information h hbare, String.toList_ofList, Json.read_write _ hsound]

theorem sound_of_json {response : Response} {payload : Json} (h : response.json = .ok payload) :
    payload.Sound := by
  unfold Response.json Response.jsonOfBytes at h
  cases htext : Encoding.decodeDetected response.body with
  | error f => simp [htext, Except.mapError] at h
  | ok t =>
    cases hread : Json.readDecoded t with
    | error e => simp [htext, hread, Except.mapError] at h
    | ok j =>
      simp only [htext, hread, Except.mapError, Except.ok.injEq] at h
      exact h ▸ Json.readDecoded_sound hread

/-- The result in any answer can be told from its text, so nothing has to be assumed of the
information part of it. -/
theorem read_resultText_of_json {response : Response} {payload : Json}
    (hbody : response.json = .ok payload)
    (hresult : result = (payload.member "res").orElse (.obj []))
    (h : result.member? "info" = some (.obj info))
    (hbare : ∀ name ∈ ["markdown", "text"], ((Json.obj info).member name).text? = none) :
    Json.read (resultText result).toList = .ok (.obj info) := by
  have hsound : result.Sound := by
    rw [hresult, Json.orElse]
    split
    · exact (sound_of_json hbody).member "res"
    · simp [Json.Sound, Json.Everywhere, Json.EverywhereMembers]
  have hinfo := hsound.member "info"
  rw [Json.member, h, Option.getD_some] at hinfo
  exact read_resultText h hbare hinfo

/-- The text of a result is the first of its readings, and empty if it has none. An object that is
handed out as JSON is read back with all that it holds, in the same order. -/
theorem resultText_faithful (result : Json) :
    resultText result = ((readings result).findSome? id).getD "" ∧
    ∀ info, result.member? "info" = some (.obj info) →
      (∀ name ∈ ["markdown", "text"], ((Json.obj info).member name).text? = none) →
      (Json.obj info).Distinct → (Json.obj info).NumbersReadBack →
        Json.read (resultText result).toList = .ok (.obj info) :=
  ⟨resultText_eq result, fun _ hinfo hbare hdistinct hnumbers =>
    read_resultText hinfo hbare (hdistinct.sound hnumbers)⟩

/-- An information part with quotes, a line break and characters beyond ASCII, its names in no
particular order; what it has for a text is a number. -/
def structuredInformation : Dictionary Json :=
  [("text", .int (-3)),
    ("lines", .arr [.str "a\"b\\\n", .obj [("é😀", .float (.ofDecimal false 15 (-1)))], .arr []]),
    ("", .null)]

def structuredResult : Json :=
  .obj [("latex", .str "x"), ("info", .obj structuredInformation)]

theorem resultText_faithful_structured :
    (Json.obj structuredInformation).Distinct ∧ (Json.obj structuredInformation).NumbersReadBack ∧
      Json.read (resultText structuredResult).toList = .ok (.obj structuredInformation) := by
  have hdistinct : (Json.obj structuredInformation).Distinct := by
    simp [structuredInformation, Json.Distinct, Json.Everywhere, Json.EverywhereItems,
      Json.EverywhereMembers]
  have hnumbers : (Json.obj structuredInformation).NumbersReadBack := by
    simp [structuredInformation, Json.NumbersReadBack, Json.Everywhere, Json.EverywhereItems,
      Json.EverywhereMembers, Json.readable_readsBack.decimal false 15 (-1)]
  exact ⟨hdistinct, hnumbers, (resultText_faithful structuredResult).2 structuredInformation rfl
    (by decide) hdistinct hnumbers⟩

example : resultText structuredResult =
    "\x7b\"text\": -3, \"lines\": [\"a\\\"b\\\\\\n\", \x7b\"é😀\": 1.5\x7d, []], \"\": null\x7d" := by
  decide +kernel

end FormulaOcr.SimpleTex
