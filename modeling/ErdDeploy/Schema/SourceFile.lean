import ErdDeploy.Files.Workspace
import ErdDeploy.Schema.Model
import ErdDeploy.Text.Utf8

/-!
Models from source files.
-/

namespace ErdDeploy

/-- Why a source file gives no model. -/
inductive SourceFileError
  /-- Nothing stands at the path, whose text is given. -/
  | notFound (path : String)
  | isFolder
  /-- The path cannot be looked at. -/
  | notReached (cause : LookError)
  | notText (fault : Utf8.Fault)
  | refused (cause : SourceError)
  deriving DecidableEq, Repr

namespace SourceFileError

/-- What is reported of an error. -/
def message : SourceFileError → String
  | .notFound path => "ERD file not found: " ++ path
  | .isFolder => "The source is a folder"
  | .notReached cause => cause.message
  | .notText fault => fault.message
  | .refused cause => cause.message

/-- Whether an error is a finding about the source, which a command reports. The others end a
command. -/
def isFinding : SourceFileError → Bool
  | .notFound _ => true
  | .notText _ => true
  | .refused _ => true
  | .isFolder => false
  | .notReached _ => false

end SourceFileError

/-- The text of the source file at a path. Its line breaks are unified. -/
def sourceText (workspace : Workspace) (path : FilePath) : Except SourceFileError String :=
  match workspace.look path with
  | .error cause => .error (.notReached cause)
  | .ok none => .error (.notFound path.text)
  | .ok (some .folder) => .error .isFolder
  | .ok (some (.file bytes)) =>
    match Utf8.decode bytes with
    | .error fault => .error (.notText fault)
    | .ok cs => .ok (String.ofList (Text.unifyNewlines cs))

namespace Model

/-- Read the source file at a path as a model. -/
def ofFile (workspace : Workspace) (path : FilePath) (rules : NamingRules) (strict : Bool) :
    Except SourceFileError Model := do
  let text ← sourceText workspace path
  (ofText rules strict text).mapError .refused

/-- What is logged while a source file is read. -/
def fileLog (workspace : Workspace) (path : FilePath) (rules : NamingRules) (strict : Bool) :
    List LogEntry :=
  match sourceText workspace path with
  | .ok text => readingLog rules strict text
  | .error _ => []

end Model

end ErdDeploy
