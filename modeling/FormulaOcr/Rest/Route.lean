import FormulaOcr.Command.Run
import FormulaOcr.Rest.Origin
import FormulaOcr.Rest.Shape

/-! The web surface: each route is one command. -/

namespace FormulaOcr.Rest

/-- A route: its method and path, the fields of its body if it takes one, the form of its answers,
and the command that the fields make. -/
structure Route where
  method : String
  path : String
  fields : Option (List Field)
  shape : Shape
  command : Json → Command

def routes : List Route :=
  [⟨"GET", "/api/settings", none, .settings, fun _ => .getSettings⟩,
   ⟨"POST", "/api/settings",
    some [.optional "simpletex_token", .optional "siliconflow_key", .optional "simpletex_model",
      .optional "voucher_models_text"],
    .saved,
    fun body => .saveSettings (body.member "simpletex_token") (body.member "siliconflow_key")
      (body.member "simpletex_model") (body.member "voucher_models_text")⟩,
   ⟨"POST", "/api/test/simpletex", some [.optional "token"], .probe,
    fun body => .testSimpleTex (body.member "token")⟩,
   ⟨"POST", "/api/test/siliconflow", some [.optional "api_key"], .probe,
    fun body => .testSiliconFlow (body.member "api_key")⟩,
   ⟨"GET", "/api/models", none, .offers, fun _ => .availableModels⟩,
   ⟨"GET", "/api/balance", none, .balance, fun _ => .balance⟩,
   ⟨"POST", "/api/recognize",
    some [.mandatory "image", .withDefault "mode" "formula", .withDefault "model_id" ""],
    .recognition,
    fun body => .recognize (body.member "image") (body.member "mode") (body.member "model_id")⟩,
   ⟨"POST", "/api/open-url", some [.mandatory "url"], .any,
    fun body => .openLink (body.member "url")⟩]

/-- Opens the store, unless the command needs none, and runs the command. -/
def perform (command : Command) : Action Reply := do
  match command with
  | .openLink _ => pure ()
  | _ => Action.openStore
  command.run

/-- Checks the body and runs the command of a route. -/
def Route.serve (r : Route) (body : String) : StateM World Answer := do
  let command := match r.fields with
    | none => Except.ok (r.command (.obj []))
    | some fields => (checkBody fields body).map fun values => r.command (.obj values)
  match command with
  | .error refusal => return .ofRefusal refusal
  | .ok command =>
    match ← (perform command).run with
    | .ok reply => return { status := 200, content := .json (r.shape.restrict reply.toJson) }
    | .error fault => return .ofFault fault

/-- The part of a target before its query, and the query with its question mark. -/
def splitTarget (target : String) : String × String :=
  let path := target.toList.takeWhile (· != '?')
  (.ofList path, .ofList (target.toList.drop path.length))

/-- A path without the slashes at its end. -/
def withoutSlashes (path : String) : String :=
  .ofList (path.toList.reverse.dropWhile (· == '/')).reverse

/-- The answer of the route that a request is for. A path that is a route but for slashes at its
end is redirected there. -/
def route (r : Request) : StateM World Answer := do
  let (path, query) := splitTarget r.path
  match routes.filter (·.path = path) with
  | [] =>
    let bare := withoutSlashes path
    if bare != path && routes.any (·.path = bare) then
      return .redirect ("http://" ++ r.host ++ bare ++ query)
    else return .notFound
  | first :: others =>
    match (first :: others).find? (·.method = r.method) with
    | some found => found.serve r.body
    | none => return .methodNotAllowed first.method

/-- The answer to a request. -/
def answer (r : Request) : StateM World Answer := do
  match r.header? "origin" with
  | none => route r
  | some origin =>
    match r.header? "access-control-request-method" with
    | some method =>
      if r.method = "OPTIONS" then
        return preflight origin method (r.header? "access-control-request-headers")
          (r.header? "access-control-request-private-network").isSome
      else return (← route r).toOrigin origin
    | none => return (← route r).toOrigin origin

end FormulaOcr.Rest
