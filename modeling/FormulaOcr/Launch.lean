import FormulaOcr.Configuration
import FormulaOcr.Text.Uppercase

/-! Starting the service: where it listens, and how much it logs. -/

namespace FormulaOcr.Launch

structure Plan where
  host : String
  port : Int
  logLevel : String
  severity : Nat
deriving DecidableEq, Repr

/-- The log levels and their severities. -/
def severities : List (String × Nat) :=
  [("CRITICAL", 50), ("FATAL", 50), ("ERROR", 40), ("WARN", 30), ("WARNING", 30), ("INFO", 20),
   ("DEBUG", 10), ("NOTSET", 0)]

/-- How the configuration asks for the service to be started. The level is checked before the
port. -/
def plan (c : Configuration) : Except Crash Plan := do
  let level := Text.uppercase (c.getOr "LOG_LEVEL" "INFO").toList
  match severities.lookup (.ofList level) with
  | none => throw (.unknownLevel (.ofList level))
  | some severity =>
    let port := c.getOr "PORT" "8071"
    match Number.int? port.toList with
    | none => throw (.badInteger port)
    | some port =>
      return {
        host := c.getOr "HOST" "127.0.0.1"
        port, severity
        logLevel := .ofList (Text.lowercase level) }

end FormulaOcr.Launch
