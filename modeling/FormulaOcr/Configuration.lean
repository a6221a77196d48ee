import FormulaOcr.Fault

/-! The configuration: settings that the host program makes, environment variables, and built-in
values. -/

namespace FormulaOcr

/-- The settings made by the host and the environment of the process. -/
structure Configuration where
  attributes : Dictionary Json
  environment : Dictionary String

namespace Configuration

def builtIn : Dictionary String :=
  [("FORMULASNAP_LANG", "zh"),
   ("HTTP_TIMEOUT", "120"),
   ("SIMPLETEX_API_BASE", "https://server.simpletex.net/api"),
   ("SILICONFLOW_API_BASE", "https://api.siliconflow.cn/v1"),
   ("SILICONFLOW_PRICING_URL", "https://siliconflow.cn/pricing"),
   ("HOST", "127.0.0.1"),
   ("PORT", "8071"),
   ("LOG_LEVEL", "INFO")]

/-- The text of a setting. What the host sets wins, even if it is empty; an empty environment
variable counts as none. -/
def get? (c : Configuration) (name : String) : Option String :=
  match (c.attributes.find? name).getD .null with
  | .null =>
    match c.environment.find? name with
    | some text => if text = "" then builtIn.find? name else some text
    | none => builtIn.find? name
  | value => some value.display

/-- The text of a setting, or the default for one that is absent or empty. -/
def getOr (c : Configuration) (name default : String) : String :=
  match c.get? name with
  | some text => if text = "" then default else text
  | none => default

def language (c : Configuration) : String :=
  c.getOr "FORMULASNAP_LANG" "zh"

/-- How many seconds a provider may take. -/
def timeout (c : Configuration) : Except Crash Binary64 :=
  let text := c.getOr "HTTP_TIMEOUT" "120"
  match Number.binary64? text.toList with
  | some x => .ok x
  | none => .error (.badNumber text)

/-- An address without the slashes at its end. -/
def endpoint (c : Configuration) (name : String) : String :=
  String.ofList (((c.get? name).getD "").toList.reverse.dropWhile (· == '/')).reverse

/-- The directory of the state files: the configured one, or one in the home directory. -/
def dataPath (c : Configuration) : Except Crash Path :=
  let text := c.getOr "FORMULASNAP_DATA_DIR" "~/.formulasnap"
  if text.toList.contains '\x00' then .error .nullInPath
  else match (Path.ofString text).expandHome? (c.environment.find? "HOME") with
  | some path => .ok path
  | none => .error .noHome

end Configuration

end FormulaOcr
