/-!
Log entries. A computation that has something to tell returns its entries in order; what is
shown of them is for the caller to decide.
-/

namespace ErdDeploy

/-- How much a log entry matters. -/
inductive LogLevel
  | debug
  | info
  | warning
  | error
  deriving DecidableEq, Repr

/-- The name of a level. -/
def LogLevel.name : LogLevel → String
  | .debug => "DEBUG"
  | .info => "INFO"
  | .warning => "WARNING"
  | .error => "ERROR"

/-- Whether a level is shown even where nobody asked for details. -/
def LogLevel.isNotable : LogLevel → Bool
  | .debug => false
  | .info => false
  | .warning => true
  | .error => true

/-- A message with its level. -/
structure LogEntry where
  level : LogLevel
  message : String
  deriving DecidableEq, Repr

end ErdDeploy
