import ErdDeploy.Data.OrderedMap
import ErdDeploy.Files.Workspace
import ErdDeploy.Settings.Profile
import ErdDeploy.Settings.SchemaSettings
import ErdDeploy.Text.Utf8
import ErdDeploy.Toml.Reader

/-!
The configuration: the profiles by name, and the settings that hold for all of them.

It is read from a TOML file. What can be wrong with the file is told apart by `ConfigError`:
some faults concern what the file says, others that it is no file, or has values where tables
belong.
-/

namespace ErdDeploy

/-- A configuration. -/
structure Config where
  profiles : OrderedMap Profile
  schema : SchemaSettings
  deriving DecidableEq

/-- The parts of a configuration that are checked by themselves. -/
inductive ConfigPart
  | profile
  | schema
  deriving DecidableEq, Repr

/-- What a part is called in a message. -/
def ConfigPart.title : ConfigPart → String
  | .profile => "DataverseProfile"
  | .schema => "SchemaSettings"

/-- Why there is no configuration. -/
inductive ConfigError
  /-- Nothing stands at the path, whose text is given. -/
  | notFound (path : String)
  | isFolder
  /-- The path cannot be looked at. -/
  | notReached (cause : LookError)
  | notText (fault : Utf8.Fault)
  /-- The file of the given name is no TOML. -/
  | notToml (name : String) (flaw : Toml.Flaw)
  /-- A number in the file has too many digits. -/
  | unreadableNumeral (cause : Text.NumeralError)
  /-- Arrays and tables in the file stand too deep in each other. -/
  | tooDeep
  /-- A part holds something that it must not hold. -/
  | invalid (part : ConfigPart) (issues : List Issue)
  /-- The profiles are no table. -/
  | profilesNotTable
  /-- A part is no table. -/
  | partNotTable (part : ConfigPart)
  deriving DecidableEq, Repr

/-- The name of the file that is read where no other is named. -/
def defaultConfigFile : String := "erd.toml"

namespace ConfigError

/-- The first line of what is reported of an invalid part. -/
def invalidHeadline (part : ConfigPart) (issues : List Issue) : String :=
  let noun := if issues.length = 1 then "validation error" else "validation errors"
  s!"{issues.length} {noun} for {part.title}"

/-- The beginning of what is reported of a file that is no TOML. -/
def notTomlHeadline (name : String) : String :=
  "Invalid TOML in " ++ name

/-- What is reported of an error. -/
def message : ConfigError → String
  | .notFound path =>
    "Migrator config not found: " ++ path ++ "\nCreate " ++ defaultConfigFile ++
      " with a [profiles.<name>] table."
  | .isFolder => "The configuration is a folder"
  | .notReached cause => cause.message
  | .notText fault => fault.message
  | .notToml name flaw => notTomlHeadline name ++ ": " ++ flaw.message
  | .unreadableNumeral cause => cause.message
  | .tooDeep => "The arrays and tables of the configuration stand too deep in each other"
  | .invalid part issues =>
    String.intercalate "\n" (invalidHeadline part issues ::
      issues.map fun issue => String.intercalate "." issue.location)
  | .profilesNotTable => "The profiles are no table"
  | .partNotTable part => part.title ++ " is no table"

/-- Whether an error is a finding about the configuration, which a command reports. The others
end a command. -/
def isFinding : ConfigError → Bool
  | .notFound _ => true
  | .notText _ => true
  | .notToml .. => true
  | .unreadableNumeral _ => true
  | .invalid .. => true
  | .isFolder => false
  | .notReached _ => false
  | .tooDeep => false
  | .profilesNotTable => false
  | .partNotTable _ => false

end ConfigError

namespace Config

/-- The result of a check, with the part that was checked. -/
def orInvalid {α : Type} (part : ConfigPart) : Checked α → Except ConfigError α
  | .valid value => .ok value
  | .invalid issues => .error (.invalid part issues)

/-- A part from its value. -/
def readPart {α : Type} (part : ConfigPart) (ofMembers : Check.Members → Checked α) :
    Value → Except ConfigError α
  | .record members => orInvalid part (ofMembers members)
  | _ => .error (.partNotTable part)

/-- The profiles from their values. -/
def readProfiles : List (String × Value) → Except ConfigError (List (String × Profile))
  | [] => .ok []
  | (name, value) :: rest => do
    let profile ← readPart .profile Profile.ofMembers value
    let profiles ← readProfiles rest
    pure ((name, profile) :: profiles)

/-- A configuration from the members of a document. -/
def ofMembers (members : Toml.Members) : Except ConfigError Config := do
  let profiles ←
    match (members.lookup "profiles").getD (.record []) with
    | .record profiles => readProfiles profiles
    | _ => .error .profilesNotTable
  let schema ← readPart .schema SchemaSettings.ofMembers
    ((members.lookup "schema").getD (.record []))
  pure ⟨.ofList profiles, schema⟩

/-- The failure of a file as an error of the configuration. -/
def errorOfFailure (path : FilePath) : Toml.Failure → ConfigError
  | .flawed flaw => .notToml path.lastName flaw
  | .unreadableNumeral cause => .unreadableNumeral cause
  | .tooDeep => .tooDeep

/-- A configuration from the bytes of the file at a path. -/
def ofBytes (path : FilePath) (bytes : List UInt8) : Except ConfigError Config :=
  match Utf8.decode bytes with
  | .error fault => .error (.notText fault)
  | .ok text =>
    match Toml.read text with
    | .error failure => .error (errorOfFailure path failure)
    | .ok members => ofMembers members

/-- The path of the file: the one that is named, or else the default one. -/
def path (named : Option String) : FilePath :=
  .ofText (named.getD defaultConfigFile)

/-- How the path is written in a message: a default path from the root on. -/
def pathText (workspace : Workspace) (named : Option String) : String :=
  match named with
  | some _ => (path named).text
  | none =>
    (if workspace.directory = "/" then "" else workspace.directory) ++ "/" ++ defaultConfigFile

/-- Load the configuration from a path, or else from the default one. -/
def load (workspace : Workspace) (named : Option String) : Except ConfigError Config :=
  match workspace.look (path named) with
  | .error cause => .error (.notReached cause)
  | .ok none => .error (.notFound (pathText workspace named))
  | .ok (some .folder) => .error .isFolder
  | .ok (some (.file bytes)) => ofBytes (path named) bytes

end Config

end ErdDeploy
