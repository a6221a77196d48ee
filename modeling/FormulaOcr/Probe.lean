import FormulaOcr.SiliconFlow.Service
import FormulaOcr.SimpleTex.Service

/-! Checks of credentials: a plain verdict when they are saved, and an explanation when they are
tested. -/

namespace FormulaOcr

/-- The result of a test: whether the credential works, what is wrong with it, and the balance of
the account. -/
structure Probe where
  ok : Bool
  error : Option String := none
  balance : Option String := none
deriving DecidableEq, Repr

namespace Probe

def failed (key : String) (values : Dictionary Json := []) : Action Probe := do
  return { ok := false, error := some (← Action.wording key values) }

/-- What a failure says about its cause. -/
def detail (f : Failure) : Json :=
  (f.complaint.values.find? "detail").getD (.str "")

end Probe

/-- Sends a request of a credential check. A failure of the network is a result. -/
def Action.reach {α : Type} (a : Action α) : Action (Except Failure α) := do
  match ← Action.attempt a with
  | .ok r => return .ok r
  | .error f => if f.complaint.kind = .network then return .error f else throw (.failure f)

namespace SimpleTex

/-- What an answer to the test picture says about a token. -/
inductive Verdict
  | accepted
  | tokenInvalid
  | noResource
  | serverError (status : Int)
  | code (code : String)
  | unknown
deriving DecidableEq, Repr

/-- The verdict that an error code alone gives. -/
def verdictOf? (code : Option String) : Option Verdict :=
  if code = some unauthorized then some .tokenInvalid
  else if code = some noValidResource then some .noResource
  else none

/-- The verdict on an answer whose error code alone gives none. -/
def otherVerdict (response : Response) (code : Option String) : Verdict :=
  if !response.isSuccess then .serverError response.status
  else match code with
    | some text => if text = "" then .unknown else .code text
    | none => .unknown

def verdict (response : Response) : Verdict :=
  if response.status = 401 then .tokenInvalid
  else
    let payload := response.json?.getD .null
    let code := errorCode? payload
    if response.isSuccess && (payload.member "status").isTrue then .accepted
    else (verdictOf? code).getD (otherVerdict response code)

/-- The verdict in the user's language. -/
def Verdict.report : Verdict → Action Probe
  | .accepted => return { ok := true }
  | .tokenInvalid => Probe.failed "probe.token_invalid"
  | .noResource => Probe.failed "probe.no_resource"
  | .serverError status => Probe.failed "probe.server_error" [("status", .int status)]
  | .code text => return { ok := false, error := some text }
  | .unknown => Probe.failed "probe.unknown_error"

/-- What an answer says, in the user's language. A meaning for which that language has an empty text
is passed over, but not that of a status of 401. -/
def report (response : Response) : Action Probe := do
  let told ← (verdict response).report
  if told.error = some "" && response.status != 401 then
    (otherVerdict response (errorCode? (response.json?.getD .null))).report
  else return told

/-- Tests a token by having the test picture recognised. -/
def probe (token : Json) : Action Probe := do
  if !token.isTruthy then Probe.failed "probe.token_missing"
  else match ← Action.reach (uploadTestImage token) with
    | .error f => Probe.failed "probe.network_error" [("detail", Probe.detail f)]
    | .ok response => report response

/-- Only an answer that rejects the token rejects it, and no answer at all. -/
def accepts (response : Response) : Bool :=
  response.status != 401 && errorCode? (response.json?.getD .null) != some unauthorized

def validate (token : Json) : Action Bool := do
  match ← Action.reach (uploadTestImage token) with
  | .error _ => return false
  | .ok response => return accepts response

end SimpleTex

namespace SiliconFlow

/-- Tests a key by asking for the account; the balance comes along. -/
def probe (key : Json) : Action Probe := do
  if !key.isTruthy then Probe.failed "probe.key_missing"
  else match ← Action.reach (fetchAccount key) with
    | .error f => Probe.failed "probe.network_error" [("detail", Probe.detail f)]
    | .ok response =>
      if response.status = 401 then Probe.failed "probe.key_invalid"
      else if response.isSuccess then
        return { ok := true, balance := total? (response.json?.getD .null) }
      else Probe.failed "probe.http_status" [("status", .int response.status)]

def validate (key : Json) : Action Bool := do
  match ← Action.reach (fetchAccount key) with
  | .error _ => return false
  | .ok response => return response.isSuccess

end SiliconFlow

namespace Provider

def probe (p : Provider) (credential : Json) : Action Probe :=
  match p with
  | .simpletex => SimpleTex.probe credential
  | .siliconflow => SiliconFlow.probe credential

def validate (p : Provider) (credential : Json) : Action Bool :=
  match p with
  | .simpletex => SimpleTex.validate credential
  | .siliconflow => SiliconFlow.validate credential

end Provider

end FormulaOcr
