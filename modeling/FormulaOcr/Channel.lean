import FormulaOcr.Command.Run

/-! The message channel: every text frame is a command with an id, and gets one reply with that id.
A command that fails never closes the channel. -/

namespace FormulaOcr.Channel

/-- The command that an action and its payload ask for. -/
def commandOf? (action : String) (payload : Json) : Option Command :=
  let argument := payload.member
  match action with
  | "get_settings" => some .getSettings
  | "save_settings" => some <|
    .saveSettings (argument "simpletex_token") (argument "siliconflow_key")
      (argument "simpletex_model") (argument "voucher_models_text")
  | "test_simpletex" => some (.testSimpleTex (argument "token"))
  | "test_siliconflow" => some (.testSiliconFlow (argument "api_key"))
  | "get_available_models" => some .availableModels
  | "get_sf_balance" => some .balance
  | "recognize" => some <|
    .recognize (argument "image") ((argument "mode").orElse (.str "formula")) (argument "model_id")
  | "open_external_url" => some (.openLink (argument "url"))
  | _ => none

/-- The object that a frame holds; null if it holds none. -/
def message (frame : String) : Json :=
  match Json.read frame.toList with
  | .ok (.obj members) => .obj members
  | _ => .null

def dispatch (message : Json) : Action Reply := do
  match message with
  | .obj _ =>
    let payload := (message.member "payload").orElse (.obj [])
    match payload with
    | .obj _ =>
      Action.openStore
      let action := message.member "action"
      match action.text?.bind (commandOf? · payload) with
      | some command => command.run
      | none => Action.complain (.unknownAction action)
    | _ => Action.complain .badMessage
  | _ => Action.complain .badMessage

def success (id : Json) (reply : Reply) : Json :=
  .obj [("id", id), ("ok", .bool true), ("result", reply.toJson)]

def refusal (id : Json) : Fault → Json
  | .failure f => .obj
    [("id", id), ("ok", .bool false), ("error", .str f.message),
     ("code", .int f.complaint.kind.status), ("error_type", .str f.complaint.kind.label)]
  | .crash c => .obj
    [("id", id), ("ok", .bool false),
     ("error", .str (if c.message = "" then "Internal error" else c.message)), ("code", .int 500)]

/-- The reply to a frame. -/
def answer (frame : String) : StateM World Json := do
  let message := message frame
  let id := message.member "id"
  match ← (dispatch message).run with
  | .ok reply => return success id reply
  | .error fault => return refusal id fault

/-- The replies to the frames of a connection, in order. -/
def connection (frames : List String) : StateM World (List Json) :=
  frames.mapM answer

end FormulaOcr.Channel
