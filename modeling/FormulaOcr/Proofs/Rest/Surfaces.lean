import FormulaOcr.Proofs.Channel.Replies
import FormulaOcr.Proofs.Commands
import FormulaOcr.Proofs.Encoding.Utf8
import FormulaOcr.Proofs.Json.RoundTrip
import FormulaOcr.Proofs.Rest.Shapes
import FormulaOcr.Proofs.Steps

/-! The message channel and the web surface. Both hand their arguments to the same commands: a frame
and a request that give the same arguments are answered with the same and leave the same world. Only
links are opened by requests without the store. -/

namespace FormulaOcr

open FormulaOcr.Action

/-- The actions of frames, each with the route that is there for the same command. -/
def surfaces : List (String × Rest.Route) :=
  ["get_settings", "save_settings", "test_simpletex", "test_siliconflow", "get_available_models",
    "get_sf_balance", "recognize", "open_external_url"].zip Rest.routes

namespace Rest

/-- The argument for a field is a text, or it is absent and need not be there. The mode of a
recognition is not an empty text. -/
def Field.Takes (f : Field) (arguments : Dictionary Json) : Prop :=
  match arguments.find? f.name with
  | none => f.required = false
  | some (.str s) => f.name = "mode" → s ≠ ""
  | some _ => False

theorem Field.Takes.absent_or {f : Field} {arguments : Dictionary Json}
    (h : f.Takes arguments) :
    (arguments.find? f.name = none ∧ f.required = false) ∨
      ∃ s, arguments.find? f.name = some (.str s) ∧ (f.name = "mode" → s ≠ "") := by
  unfold Field.Takes at h
  cases hfound : arguments.find? f.name with
  | none =>
    rw [hfound] at h
    exact .inl ⟨rfl, h⟩
  | some value =>
    rw [hfound] at h
    cases value with
    | str s => exact .inr ⟨s, rfl, h⟩
    | _ => exact h.elim

/-- The value of a field for given arguments. -/
def Field.given (f : Field) (arguments : Dictionary Json) : Json :=
  (arguments.find? f.name).getD f.default

/-- The command that a route makes of arguments. -/
def Route.commandOn (r : Route) (arguments : Dictionary Json) : Command :=
  r.command (.obj ((r.fields.getD []).map fun f => (f.name, f.given arguments)))

variable {arguments : Dictionary Json}

theorem fieldValue_given {f : Field} (h : f.Takes arguments) :
    fieldValue (.obj arguments) f = .ok (f.given arguments) := by
  have hmember : (Json.obj arguments).member? f.name = arguments.find? f.name := rfl
  rw [fieldValue, Field.given, hmember]
  rcases h.absent_or with ⟨hnone, hoptional⟩ | ⟨s, hfound, -⟩
  · rw [hnone, hoptional]
    rfl
  · rw [hfound]
    rfl

theorem fieldValues_given {fields : List Field} (h : ∀ f ∈ fields, f.Takes arguments) :
    fieldValues (.obj arguments) fields =
      .ok (fields.map fun f => (f.name, f.given arguments)) := by
  induction fields with
  | nil => rfl
  | cons f fields ih =>
    rw [fieldValues, fieldValue_given (h f (by simp)),
      ih fun g hg => h g (List.mem_cons_of_mem _ hg)]
    rfl

theorem checkBody_given {fields : List Field} {body : String}
    (hbody : Response.jsonOfBytes (Encoding.Utf8.encodeString body) = .ok (.obj arguments))
    (h : ∀ f ∈ fields, f.Takes arguments) :
    checkBody fields body = .ok (fields.map fun f => (f.name, f.given arguments)) := by
  have hthere : body ≠ "" := by
    rintro rfl
    have hnone : (Response.jsonOfBytes (Encoding.Utf8.encodeString "")).toOption.isNone = true := by
      decide +kernel
    rw [hbody] at hnone
    exact nomatch hnone
  rw [checkBody, if_neg hthere, hbody]
  dsimp only
  rw [fieldValues_given h]
  rfl

/-- What a route answers once its command has ended. -/
def Route.ended (r : Route) : Except Fault Reply → Answer
  | .ok reply => { status := 200, content := .json (r.shape.restrict reply.toJson) }
  | .error fault => .ofFault fault

theorem run_serve {r : Route} {body : String} (w : World)
    (hbody : r.fields.isSome = true →
      Response.jsonOfBytes (Encoding.Utf8.encodeString body) = .ok (.obj arguments))
    (htakes : ∀ f ∈ r.fields.getD [], f.Takes arguments) :
    (r.serve body).run w =
      (r.ended (exec (perform (r.commandOn arguments)) w).1,
        (exec (perform (r.commandOn arguments)) w).2) := by
  have hserve (c : Command) : StateT.run (do
      match ← (perform c).run with
      | .ok reply => return { status := 200, content := .json (r.shape.restrict reply.toJson) }
      | .error fault => return Answer.ofFault fault : StateM World Answer) w =
        (r.ended (exec (perform c) w).1, (exec (perform c) w).2) := by
    rw [StateT.run_bind]
    cases hexec : exec (perform c) w with
    | mk result v =>
      have hrun : StateT.run (ExceptT.run (perform c)) w = (result, v) := hexec
      rw [hrun]
      cases result <;> rfl
  unfold Route.serve Route.commandOn
  cases hfields : r.fields with
  | none => exact hserve _
  | some fields =>
    rw [hfields] at hbody htakes
    dsimp only [Option.getD_some] at htakes ⊢
    rw [checkBody_given (hbody rfl) htakes]
    exact hserve _

/-- A request with the method and the path of a route is for this route. -/
theorem route_eq_serve {r : Route} (hr : r ∈ routes) {request : Request}
    (hmethod : request.method = r.method) (hpath : (splitTarget request.path).1 = r.path) :
    route request = r.serve request.body := by
  unfold route
  rcases hsplit : splitTarget request.path with ⟨path, query⟩
  rw [hsplit] at hpath
  dsimp only at hpath ⊢
  rw [hpath, hmethod]
  simp only [routes, List.mem_cons, List.not_mem_nil, or_false] at hr
  rcases hr with rfl | rfl | rfl | rfl | rfl | rfl | rfl | rfl <;> rfl

/-- What a page of another origin is told comes on top of the answer. -/
theorem run_answer_route {request : Request} (hmethod : request.method ≠ "OPTIONS") (w : World) :
    ∃ headers, (answer request).run w =
      ({ ((route request).run w).1 with headers }, ((route request).run w).2) := by
  have horigin (origin : String) : ∃ headers,
      (do return (← route request).toOrigin origin : StateM World Answer).run w =
        ({ ((route request).run w).1 with headers }, ((route request).run w).2) := by
    rw [StateT.run_bind]
    rcases (route request).run w with ⟨a, v⟩
    have hsame : ∃ headers, a.toOrigin origin = { a with headers } := by
      unfold Answer.toOrigin
      split_ifs
      · exact ⟨a.headers, rfl⟩
      · exact ⟨_, rfl⟩
    obtain ⟨headers, hsame⟩ := hsame
    exact ⟨headers, congrArg (·, v) hsame⟩
  unfold answer
  split
  · exact ⟨_, rfl⟩
  · split
    · rw [if_neg hmethod]
      exact horigin _
    · exact horigin _

end Rest

/-- An absent mode is that for formulas. -/
theorem orElse_mode {arguments : Dictionary Json}
    (h : (Rest.Field.withDefault "mode" "formula").Takes arguments) :
    ((Json.obj arguments).member "mode").orElse (.str "formula") =
      (Rest.Field.withDefault "mode" "formula").given arguments := by
  rw [Json.member, Json.member?, Rest.Field.given]
  rcases h.absent_or with ⟨hnone, -⟩ | ⟨s, hfound, hmode⟩
  · dsimp only [Rest.Field.withDefault] at hnone ⊢
    rw [hnone]
    rfl
  · dsimp only [Rest.Field.withDefault] at hfound hmode ⊢
    have hs : s ≠ "" := hmode rfl
    rw [hfound]
    simp [Json.orElse, Json.isTruthy, hs]

/-- An absent model is none that is chosen. -/
theorem strip_model {arguments : Dictionary Json}
    (h : (Rest.Field.withDefault "model_id" "").Takes arguments) :
    Command.strip ((Json.obj arguments).member "model_id") =
      Command.strip ((Rest.Field.withDefault "model_id" "").given arguments) := by
  rw [Json.member, Json.member?, Rest.Field.given]
  rcases h.absent_or with ⟨hnone, -⟩ | ⟨s, hfound, -⟩
  · dsimp only [Rest.Field.withDefault] at hnone ⊢
    rw [hnone]
    rfl
  · dsimp only [Rest.Field.withDefault] at hfound ⊢
    rw [hfound]
    rfl

theorem run_recognize_congr (image mode : Json) {modelId other : Json}
    (h : Command.strip modelId = Command.strip other) :
    (Command.recognize image mode modelId).run = (Command.recognize image mode other).run := by
  have hrun : Command.runRecognize image mode modelId =
      Command.runRecognize image mode other := by
    unfold Command.runRecognize
    rw [h]
  rw [Command.run, Command.run, hrun]

/-- The commands that an action and its route make of the same arguments come to the same. -/
theorem run_commandOn {action : String} {r : Rest.Route} (hr : (action, r) ∈ surfaces)
    {arguments : Dictionary Json} (htakes : ∀ f ∈ r.fields.getD [], f.Takes arguments) :
    ∃ c, Channel.commandOf? action (.obj arguments) = some c ∧
      c.run = (r.commandOn arguments).run := by
  simp only [surfaces, Rest.routes, List.zip_cons_cons, List.zip_nil_right, List.mem_cons,
    List.not_mem_nil, or_false, Prod.mk.injEq] at hr
  rcases hr with ⟨rfl, rfl⟩ | ⟨rfl, rfl⟩ | ⟨rfl, rfl⟩ | ⟨rfl, rfl⟩ | ⟨rfl, rfl⟩ | ⟨rfl, rfl⟩ |
    ⟨rfl, rfl⟩ | ⟨rfl, rfl⟩
  · exact ⟨_, rfl, rfl⟩
  · exact ⟨_, rfl, rfl⟩
  · exact ⟨_, rfl, rfl⟩
  · exact ⟨_, rfl, rfl⟩
  · exact ⟨_, rfl, rfl⟩
  · exact ⟨_, rfl, rfl⟩
  · refine ⟨_, rfl, ?_⟩
    rw [orElse_mode (htakes (.withDefault "mode" "formula") (by simp))]
    exact run_recognize_congr _ _ (strip_model (htakes (.withDefault "model_id" "") (by simp)))
  · exact ⟨_, rfl, rfl⟩

/-- A frame and a request that give the same arguments: the frame for an action, and the request for
its route. -/
structure Counterparts (frame : String) (request : Rest.Request) (action : String) (r : Rest.Route)
    (arguments : Dictionary Json) : Prop where
  surface : (action, r) ∈ surfaces
  takes : ∀ f ∈ r.fields.getD [], f.Takes arguments
  action : (Channel.message frame).member "action" = .str action
  payload : ((Channel.message frame).member "payload").orElse (.obj []) = .obj arguments
  method : request.method = r.method
  path : (Rest.splitTarget request.path).1 = r.path
  body : r.fields.isSome = true →
    Response.jsonOfBytes (Encoding.Utf8.encodeString request.body) = .ok (.obj arguments)

/-! What clients write. -/

/-- An object begins with two characters that show the encoding. -/
theorem write_obj_front (members : Dictionary Json) :
    ∃ c rest, Json.write Json.oneLine (.obj members) = '\x7b' :: c :: rest ∧
      (c = '\x7d' ∨ c = '"') := by
  cases members with
  | nil => exact ⟨_, [], rfl, .inl rfl⟩
  | cons member members =>
    obtain ⟨name, value⟩ := member
    exact ⟨'"', _, rfl, .inr rfl⟩

theorem detect_obj {b : UInt8} (hb : b = 0x7D ∨ b = 0x22) (rest : Bytes) :
    Encoding.detect (0x7B :: b :: rest) = (.utf8, 0) := by
  rcases hb with rfl | rfl
  · rcases rest with _ | ⟨c, _ | ⟨d, rest⟩⟩ <;> rfl
  · rcases rest with _ | ⟨c, _ | ⟨d, rest⟩⟩ <;> rfl

theorem decodeDetected_written (members : Dictionary Json) :
    Encoding.decodeDetected (Encoding.Utf8.encodeString (written members)) =
      .ok (Json.write Json.oneLine (.obj members)) := by
  have hdecoded := Encoding.Utf8.decodeFrom_encode true (Json.write Json.oneLine (.obj members)) _ 0
    le_rfl
  rw [Encoding.Utf8.encodeString, written, String.toList_ofList]
  obtain ⟨c, rest, hfront, hc⟩ := write_obj_front members
  have hdetect : Encoding.detect (Encoding.Utf8.encode (Json.write Json.oneLine (.obj members))) =
      (.utf8, 0) := by
    rw [hfront]
    rcases hc with rfl | rfl
    · exact detect_obj (.inl rfl) (Encoding.Utf8.encode rest)
    · exact detect_obj (.inr rfl) (Encoding.Utf8.encode rest)
  rw [Encoding.decodeDetected, hdetect]
  exact hdecoded

theorem jsonOfBytes_written {members : Dictionary Json} (h : (Json.obj members).Sound) :
    Response.jsonOfBytes (Encoding.Utf8.encodeString (written members)) = .ok (.obj members) := by
  rw [Response.jsonOfBytes, decodeDetected_written]
  dsimp only
  rw [Json.readDecoded_write _ h]
  rfl

/-- Whatever the arguments are, they can be given by a frame and by a request. -/
theorem counterparts_written {action : String} {r : Rest.Route} (hr : (action, r) ∈ surfaces)
    {arguments : Dictionary Json} (htakes : ∀ f ∈ r.fields.getD [], f.Takes arguments)
    (hsound : (Json.obj arguments).Sound) (host : String) (headers : Dictionary String) :
    Counterparts (written [("action", .str action), ("payload", .obj arguments)])
      { host, method := r.method, path := r.path, body := written arguments, headers }
      action r arguments := by
  have hframe : (Json.obj [("action", .str action), ("payload", .obj arguments)]).Sound := by
    unfold Json.Sound at hsound ⊢
    simp only [Json.Everywhere, Json.EverywhereMembers, and_true, true_and] at hsound ⊢
    exact ⟨by simp [Dictionary.keys], hsound⟩
  have hmessage := message_written hframe
  refine ⟨hr, htakes, ?_, ?_, rfl, ?_, fun _ => jsonOfBytes_written hsound⟩
  · rw [hmessage]
    rfl
  · rw [hmessage]
    cases arguments <;> rfl
  · have hpaths : Rest.routes.all (fun r => (Rest.splitTarget r.path).1 == r.path) = true := by
      decide +kernel
    simpa using List.all_eq_true.1 hpaths r (List.of_mem_zip hr).2

/-! What they are answered. -/

/-- A reply to a frame and an answer to a request that tell the same: a result, a failure with its
kind, or a crash. -/
inductive Mirrors : Json → Rest.Answer → Prop
  | result (id result : Json) (headers : Dictionary String) :
    Mirrors (.obj [("id", id), ("ok", .bool true), ("result", result)])
      { status := 200, content := .json result, headers }
  | failure (id : Json) (message label : String) (code : Int) (headers : Dictionary String) :
    Mirrors
      (.obj [("id", id), ("ok", .bool false), ("error", .str message), ("code", .int code),
        ("error_type", .str label)])
      { status := code
        content := .json (.obj [("detail", .str message), ("error_type", .str label)]), headers }
  | crash (id : Json) (message : String) (c : Crash) (headers : Dictionary String) :
    Mirrors
      (.obj [("id", id), ("ok", .bool false), ("error", .str message), ("code", .int 500)])
      { status := 500, content := .text "Internal Server Error", headers, crash := some c }

/-- Opening a link needs no store; where it is open, a request finds what a frame finds. -/
theorem exec_perform {c : Command} {w : World}
    (hopen : w.store.isSome = true ∨ ∀ url, c ≠ .openLink url) :
    exec (Rest.perform c) w = exec (openStore >>= fun _ => c.run) w := by
  cases c with
  | openLink url =>
    obtain ⟨s, hs⟩ := Option.isSome_iff_exists.1 (hopen.resolve_right fun hnot => hnot url rfl)
    rw [exec_bind_ok (exec_openStore_some hs)]
    rfl
  | _ => rfl

/-- Only the action that opens links has a command that does. -/
theorem commandOn_ne_openLink {action : String} {r : Rest.Route} (hr : (action, r) ∈ surfaces)
    (haction : action ≠ "open_external_url") (arguments : Dictionary Json) (url : Json) :
    r.commandOn arguments ≠ .openLink url := by
  simp only [surfaces, Rest.routes, List.zip_cons_cons, List.zip_nil_right, List.mem_cons,
    List.not_mem_nil, or_false, Prod.mk.injEq] at hr
  rcases hr with ⟨rfl, rfl⟩ | ⟨rfl, rfl⟩ | ⟨rfl, rfl⟩ | ⟨rfl, rfl⟩ | ⟨rfl, rfl⟩ | ⟨rfl, rfl⟩ |
    ⟨rfl, rfl⟩ | ⟨rfl, rfl⟩
  case inr.inr.inr.inr.inr.inr.inr => exact absurd rfl haction
  all_goals simp [Rest.Route.commandOn]

/-- A frame and a request that give the same arguments tell the same and leave the same world, and
with it the same calls, links and files. Requests open links without the store, so that this must be
open. -/
theorem surfaces_agree {frame : String} {request : Rest.Request} {action : String} {r : Rest.Route}
    {arguments : Dictionary Json} (h : Counterparts frame request action r arguments) {w : World}
    (hopen : w.store.isSome = true ∨ action ≠ "open_external_url") :
    Mirrors ((Channel.answer frame).run w).1 ((Rest.answer request).run w).1 ∧
      ((Channel.answer frame).run w).2 = ((Rest.answer request).run w).2 := by
  have hmem : r ∈ Rest.routes := (List.of_mem_zip h.surface).2
  have hperform := exec_perform (c := r.commandOn arguments) (hopen.imp_right fun hne url =>
    commandOn_ne_openLink h.surface hne arguments url)
  obtain ⟨c, hc, hsame⟩ := run_commandOn h.surface h.takes
  have hasked : Channel.asked (Channel.message frame) = some c := by
    rw [Channel.asked, h.action, h.payload]
    exact hc
  have hframe := run_answer frame w
  rw [Channel.dispatch_asked hasked h.payload, hsame, ← hperform] at hframe
  have hmethods : ∀ r ∈ Rest.routes, r.method ≠ "OPTIONS" := by simp [Rest.routes]
  have hmethod : request.method ≠ "OPTIONS" := h.method ▸ hmethods r hmem
  obtain ⟨headers, hanswer⟩ := Rest.run_answer_route hmethod w
  rw [Rest.route_eq_serve hmem h.method h.path, Rest.run_serve w h.body h.takes] at hanswer
  rw [hframe, hanswer]
  generalize (Channel.message frame).member "id" = id
  cases hexec : exec (Rest.perform (r.commandOn arguments)) w with
  | mk result v =>
    cases result with
    | ok reply =>
      obtain ⟨_, u, -, hrun⟩ := exec_bind_eq_ok (hperform.symm.trans hexec)
      dsimp only [Rest.Route.ended]
      rw [Rest.restrict_of_run hmem hrun]
      exact ⟨.result id reply.toJson headers, rfl⟩
    | error e =>
      cases e with
      | failure f => exact ⟨.failure id f.message _ _ headers, rfl⟩
      | crash crash => exact ⟨.crash id _ crash headers, rfl⟩

/-- A fresh service, and a link with the frame and the request that open it. -/
def installed : World :=
  Session.fresh ⟨[("FORMULASNAP_DATA_DIR", .str "/data")], []⟩ [] "2026-03-01" [] true

def link : Dictionary Json :=
  [("url", .str "https://example.com")]

def linkFrame : String :=
  written [("action", .str "open_external_url"), ("payload", .obj link)]

def linkRequest : Rest.Request :=
  { host := "localhost", method := "POST", path := "/api/open-url", body := written link }

theorem counterparts_link :
    ∃ r, Counterparts linkFrame linkRequest "open_external_url" r link := by
  have hsurface : ("open_external_url", Rest.Route.mk "POST" "/api/open-url"
      (some [.mandatory "url"]) .any fun body => .openLink (body.member "url")) ∈ surfaces := by
    simp [surfaces, Rest.routes]
  have htakes : (Rest.Field.mandatory "url").Takes link := by
    intro hmode
    simp [Rest.Field.mandatory] at hmode
  exact ⟨_, counterparts_written hsurface (by simpa using htakes)
    (by simp [link, Json.Sound, Json.Everywhere, Json.EverywhereMembers]) "localhost" []⟩

theorem surfaces_agree_link :
    ((Rest.answer linkRequest).run (exec openStore installed).2).1.status = 200 ∧
      Mirrors ((Channel.answer linkFrame).run (exec openStore installed).2).1
        ((Rest.answer linkRequest).run (exec openStore installed).2).1 ∧
      ((Channel.answer linkFrame).run (exec openStore installed).2).2 =
        ((Rest.answer linkRequest).run (exec openStore installed).2).2 := by
  obtain ⟨r, hlink⟩ := counterparts_link
  exact ⟨by decide +kernel, surfaces_agree hlink (.inl (by decide +kernel))⟩

/-- Worlds in which the same calls were made and the same links opened, and which hold the same
state files. -/
structure World.Traces (w v : World) : Prop where
  calls : w.calls = v.calls
  opened : w.opened = v.opened
  files : ∀ dir, w.configuration.dataPath = .ok dir → ∀ name ∈ stateFiles,
    (w.disk.read (dir.child name)).toOption = (v.disk.read (dir.child name)).toOption

/-- A frame that opens a link writes the store where it is not open yet, and a request does not. -/
theorem not_surfaces_agree :
    ¬ ∀ frame request action r arguments w, Counterparts frame request action r arguments →
      Mirrors ((Channel.answer frame).run w).1 ((Rest.answer request).run w).1 ∧
        World.Traces ((Channel.answer frame).run w).2 ((Rest.answer request).run w).2 := by
  intro hclaim
  obtain ⟨r, hlink⟩ := counterparts_link
  have hfiles := (hclaim _ _ _ _ _ installed hlink).2.files ⟨"/", ["data"]⟩
    (eq_ok_of_toOption (by decide +kernel)) Store.filename (by decide)
  have hframe : (((Channel.answer linkFrame).run installed).2.disk.read
      (Path.child ⟨"/", ["data"]⟩ Store.filename)).toOption.isSome = true := by
    decide +kernel
  have hrequest : (((Rest.answer linkRequest).run installed).2.disk.read
      (Path.child ⟨"/", ["data"]⟩ Store.filename)).toOption.isSome = false := by
    decide +kernel
  rw [hfiles, hrequest] at hframe
  exact nomatch hframe

end FormulaOcr
