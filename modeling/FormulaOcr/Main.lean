import FormulaOcr.Launch
import FormulaOcr.Session

/-! The program: it takes its configuration from the environment, says where the service is to
listen, and answers the frames of a message channel on its standard input, one to a line. Its files
live in memory, and no network is reached from here: every exchange ends as one that found no
server. -/

namespace FormulaOcr.Program

/-- The variables that the configuration is taken from. -/
def settingNames : List String :=
  ["HOME", "FORMULASNAP_DATA_DIR", "FORMULASNAP_LANG", "HTTP_TIMEOUT", "SIMPLETEX_API_BASE",
   "SILICONFLOW_API_BASE", "SILICONFLOW_PRICING_URL", "HOST", "PORT", "LOG_LEVEL"]

def environment : IO (Dictionary String) :=
  settingNames.filterMapM fun name => return (← IO.getEnv name).map (name, ·)

partial def serve (input output : IO.FS.Stream) (world : World) : IO Unit := do
  let line ← input.getLine
  if line.isEmpty then return
  let (reply, world) := (Channel.answer line).run world
  output.putStrLn (.ofList (Json.write Json.oneLine reply))
  output.flush
  serve input output world

def run : IO UInt32 := do
  let configuration : Configuration := ⟨[], ← environment⟩
  match Launch.plan configuration with
  | .error crash =>
    (← IO.getStderr).putStrLn crash.message
    return 1
  | .ok plan =>
    (← IO.getStderr).putStrLn s!"listening on {plan.host}:{plan.port} ({plan.logLevel})"
    serve (← IO.getStdin) (← IO.getStdout) (Session.fresh configuration [] "1970-01-01" [] false)
    return 0

end FormulaOcr.Program

def main : IO UInt32 :=
  FormulaOcr.Program.run
