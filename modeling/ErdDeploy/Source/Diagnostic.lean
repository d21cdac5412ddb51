/-!
Diagnostics: what is wrong with a source, and where.

Only errors make a source unreadable for a strict reader. Lines and columns count from one, and
a column counts characters.
-/

namespace ErdDeploy

/-- How much a diagnostic matters. -/
inductive Severity
  | warning
  | error
  deriving DecidableEq, Repr

/-- The word for a severity. -/
def Severity.word : Severity → String
  | .warning => "warning"
  | .error => "error"

/-- A problem found while reading a source. -/
structure Diagnostic where
  line : Int
  column : Nat
  message : String
  severity : Severity
  deriving DecidableEq, Repr

namespace Diagnostic

/-- A warning about a line as a whole. -/
def warning (line : Int) (message : String) : Diagnostic :=
  ⟨line, 1, message, .warning⟩

/-- Whether the diagnostic is an error. -/
def isError (d : Diagnostic) : Bool :=
  d.severity == .error

/-- The one-line form of a diagnostic. -/
def format (d : Diagnostic) : String :=
  s!"line {d.line}, column {d.column}: {d.severity.word}: {d.message}"

end Diagnostic

end ErdDeploy
