import FormulaOcr.Disk.Tree
import FormulaOcr.Encoding.Fault
import FormulaOcr.Json.Reader
import FormulaOcr.Localization.Template

/-! What can go wrong: failures that a command reports to its user in the user's language, and
crashes that no command expects. -/

namespace FormulaOcr

/-- The classes of failures that users are told about. -/
inductive FailureKind
  | recognition
  | notConfigured
  | auth
  | quotaExhausted
  | validation
  | provider
  | network
  | noModelSelected
deriving DecidableEq, Repr

namespace FailureKind

/-- The status that answers a request that failed this way. -/
def status : FailureKind → Int
  | .recognition => 502
  | .notConfigured => 400
  | .auth => 401
  | .quotaExhausted => 429
  | .validation => 422
  | .provider => 502
  | .network => 503
  | .noModelSelected => 400

def label : FailureKind → String
  | .recognition => "provider_error"
  | .notConfigured => "not_configured"
  | .auth => "auth_error"
  | .quotaExhausted => "quota_exhausted"
  | .validation => "validation_error"
  | .provider => "provider_error"
  | .network => "network_error"
  | .noModelSelected => "no_model_selected"

/-- The message of a failure that names none. -/
def defaultKey : FailureKind → String
  | .quotaExhausted => "errors.simpletex_quota"
  | .network => "errors.request_failed"
  | .noModelSelected => "errors.no_model_selected"
  | _ => "errors.provider_message"

end FailureKind

/-- A failure before it is put into words: its class, the key of its message, and the values that
the message mentions. -/
structure Complaint where
  kind : FailureKind
  key : String
  values : Dictionary Json := []

/-- A failure in the user's language. -/
structure Failure where
  complaint : Complaint
  message : String

/-- An exchange that was broken off, by the name of its cause. -/
structure Interruption where
  name : String
  message : String
deriving DecidableEq, Repr

/-- The causes that lie in the network; any other cause is a crash. -/
def Interruption.networkNames : List String :=
  ["ConnectError", "ReadTimeout", "ConnectTimeout", "PoolTimeout", "RemoteProtocolError",
   "TooManyRedirects", "UnsupportedProtocol", "DecodingError"]

def Interruption.isNetwork (i : Interruption) : Bool :=
  networkNames.contains i.name

/-- The message, or the name of the cause when there is none. -/
def Interruption.detail (i : Interruption) : String :=
  if i.message = "" then i.name else i.message

/-- Why a table of messages could not be taken in. -/
inductive TableFault
  | notIterable (kind : String)
  | notPair (index : Nat)
  | pairLength (index length : Nat)
  | unhashable (kind : String)
deriving DecidableEq, Repr

def TableFault.message : TableFault → String
  | .notIterable kind => s!"'{kind}' object is not iterable"
  | .notPair index => s!"cannot convert dictionary update sequence element #{index} to a sequence"
  | .pairLength index length =>
    s!"dictionary update sequence element #{index} has length {length}; 2 is required"
  | .unhashable kind => s!"unhashable type: '{kind}'"

/-- Why the host part of an address was refused. -/
inductive HostFault
  | misplacedBracket
  | futureAddress
  | bracketedIPv4
  | notAddress (host : String)
  | foldedDelimiter (host : String)
deriving DecidableEq, Repr

def HostFault.message : HostFault → String
  | .misplacedBracket => "Invalid IPv6 URL"
  | .futureAddress => "IPvFuture address is invalid"
  | .bracketedIPv4 => "An IPv4 address cannot be in brackets"
  | .notAddress host =>
    s!"{Json.quotedString host} does not appear to be an IPv4 or IPv6 address"
  | .foldedDelimiter host =>
    s!"netloc '{host}' contains invalid characters under NFKC normalization"

/-- What no command expects. -/
inductive Crash
  | noSuchOperation (kind operation : String)
  | notIterable (kind : String)
  | badNumber (text : String)
  | badInteger (text : String)
  | numberTooLarge
  | irregularNumber (x : Binary64)
  | takenName (operation name : String)
  | unknownLevel (level : String)
  | host (f : HostFault)
  | noHome
  | nullInPath
  | template (f : Localization.TemplateFault)
  | table (f : TableFault)
  | json (e : Json.ReadError)
  | encoding (f : Encoding.Fault)
  | disk (f : Disk.Fault)
  | interruption (i : Interruption)
deriving Repr

def Crash.message : Crash → String
  | .noSuchOperation kind operation => s!"'{kind}' object has no attribute '{operation}'"
  | .notIterable kind => s!"'{kind}' object is not iterable"
  | .badNumber text => s!"could not convert string to float: {Json.quotedString text}"
  | .badInteger text => s!"invalid literal for int() with base 10: {Json.quotedString text}"
  | .numberTooLarge => "int too large to convert to float"
  | .irregularNumber x =>
    s!"Out of range float values are not JSON compliant: {String.ofList x.repr}"
  | .takenName operation name => s!"{operation}() got multiple values for argument '{name}'"
  | .unknownLevel level => s!"Unknown level: {Json.quotedString level}"
  | .host f => f.message
  | .noHome => "Could not determine home directory."
  | .nullInPath => "embedded null byte"
  | .template f => f.message
  | .table f => f.message
  | .json e => e.message
  | .encoding f => f.message
  | .disk f => f.message
  | .interruption i => i.message

/-- Values may not go by the names that an operation has for its own arguments. -/
def checkNames (operation : String) (own : List String) (values : Dictionary Json) :
    Except Crash Unit :=
  match values.keys.find? own.contains with
  | some name => .error (.takenName operation name)
  | none => .ok ()

/-- What goes wrong inside a computation that knows no language yet. -/
inductive Problem
  | complaint (c : Complaint)
  | crash (c : Crash)

/-- What ends a command early. -/
inductive Fault
  | failure (f : Failure)
  | crash (c : Crash)

def Fault.message : Fault → String
  | .failure f => f.message
  | .crash c => c.message

end FormulaOcr
