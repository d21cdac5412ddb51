import ErdDeploy.Command.Execution

/-!
What commands show, as plain lines of text.

On a plain console markup is left out, and the columns of a table are brought to one width each.
How a command ends is told apart from what it shows: a command that ends without a code says why.
-/

namespace ErdDeploy

namespace ConsoleTable

/-- The rows of a table below its headings, as they are shown. -/
def plainRows (table : ConsoleTable) : Except Refusal (List (List String)) :=
  (table.rows.mapM (List.mapM Markup.read)).map (table.columns :: ·)

/-- The length of the longest text. -/
def longest (texts : List String) : Nat :=
  (texts.map String.length).foldl max 0

/-- The width of each of some columns. -/
def widths (columns : Nat) (rows : List (List String)) : List Nat :=
  (List.range columns).map fun column =>
    longest (rows.filterMap fun row => row[column]?)

/-- A text filled up with spaces. -/
def fill (text : String) (width : Nat) : String :=
  text ++ String.ofList (List.replicate (width - text.length) ' ')

/-- The line of a row, without spaces at its end. -/
def rowLine (widths : List Nat) (row : List String) : String :=
  String.ofList (Text.dropEndWhile (· == ' ')
    (String.intercalate "  " (row.zipWith fill widths)).toList)

/-- The lines of a table, the title first. -/
def lines (table : ConsoleTable) : Except Refusal (List String) :=
  table.plainRows.map fun rows =>
    table.title.toList ++ rows.map (rowLine (widths table.columns.length rows))

end ConsoleTable

/-- The lines that show an item without colours. -/
def ConsoleItem.lines : ConsoleItem → Except Refusal (List String)
  | .line text => (Markup.read text).map ([·])
  | .failure cause => (Markup.read (failureLine Markup.escape cause.message)).map ([·])
  | .table grid => grid.lines
  | .log entry => .ok [entry.level.name ++ " " ++ entry.message]

/-- A console without colours. -/
def Console.plain : Console where
  escape := Markup.escape
  print := ConsoleItem.lines

/-- What is reported of a fault. -/
def Fault.message : Fault → String
  | .creationNotRecord => "The answer to a creation is no object"
  | .tokenRefusalNotRecord => "The answer to a refused token request is no object"
  | .lifetimeNotNumeric => "The lifetime of a token writes no number"
  | .lifetimeNotNumber => "The lifetime of a token is no number"
  | .lifetimeTooLarge => "The lifetime of a token is too large"
  | .bodyTooDeep => "The lists and objects of an answer stand too deep in each other"
  | .payloadOfOtherKind => "A payload is of another kind than the object"
  | .wait .notNumber => "The wait that the server asks for is no number"
  | .wait .tooLong => "The wait that the server asks for is too long"

/-- What is reported of a run without a result. -/
def RunError.message : RunError → String
  | .clientRequired => clientRequiredMessage
  | .noClient => "There is no client to create objects with"
  | .identifierNotText => "The identifier of an object is no text"
  | .fault cause => cause.message

/-- What is reported of a command that ends without a code. -/
def Crash.message : Crash → String
  | .input failure => failure.message
  | .run error => error.message
  | .refusal cause => cause.text

namespace Transcript

/-- The lines of everything that is shown on a console. -/
def lines (console : Console) (transcript : Transcript) : List String :=
  transcript.items.flatMap fun item => (console.print item).toOption.getD []

/-- The code that the program gives back, and what it reports beside what it shows. -/
def outcome (transcript : Transcript) : Nat × List String :=
  match transcript.ending with
  | .exit code => (code, [])
  | .crash cause => (1, [cause.message])

end Transcript

/-- The lines that explain how the program is used. -/
def usageLines : List String :=
  ["usage: erd-migrator [--env-prefix PREFIX] [--config FILE] [-v] COMMAND",
    "  parse [--strict] FILE                  show what a source declares",
    "  deploy [-p PROFILE] [--dry-run] FILE   create what a source declares",
    "  profiles                               list the profiles"]

end ErdDeploy
