import ErdDeploy.Settings.Config
import ErdDeploy.Web.MetadataClient

/-!
Choosing a profile, and the way into its environment.

A profile is named by the caller, by an environment variable, or by being the only one. A token
in an environment variable is used as it is; otherwise one is fetched with the credentials of the
profile, whose secret may stand in an environment variable.
-/

namespace ErdDeploy

/-- Why no profile can be used. -/
inductive SelectionError
  /-- Nothing names a profile. The profiles are those of the configuration, if there is one. -/
  | notSelected (variablePrefix : String) (available : Option (List String))
  /-- The configuration has no profile of the name. -/
  | unknown (name : String) (available : List String)
  /-- There is neither a token nor what is needed to fetch one. -/
  | noCredentials (variablePrefix : String)
  deriving DecidableEq, Repr

/-- The variable that names a profile. -/
def profileVariable : String := "ERD_PROFILE"

/-- The variable that holds a token. -/
def tokenVariable : String := "DATAVERSE_TOKEN"

/-- The variable that holds a secret. -/
def secretVariable : String := "DATAVERSE_CLIENT_SECRET"

/-- What is reported of a profile that cannot be used. -/
def SelectionError.message : SelectionError → String
  | .notSelected variablePrefix available =>
    "No environment profile selected.\nPass --profile or set " ++ variablePrefix ++
      profileVariable ++ ". Available profiles: " ++
      match available with
      | some names => String.intercalate ", " names
      | none => "none loaded"
  | .unknown name available =>
    "Profile '" ++ name ++ "' not found in " ++ defaultConfigFile ++
      ".\nAvailable profiles: " ++ String.intercalate ", " available
  | .noCredentials variablePrefix =>
    "Profile has no usable credentials.\nSet tenant_id, client_id and client_secret (or " ++
      variablePrefix ++ secretVariable ++ "), or provide a token in " ++ variablePrefix ++
      tokenVariable ++ "."

/-- A text that is there and not empty. -/
def nonempty? : Option String → Option String
  | some text => if text = "" then none else some text
  | none => none

namespace Workspace

/-- The value of a variable whose name begins with what was asked for, unless it is empty. -/
def usedSetting? (workspace : Workspace) (variablePrefix variableName : String) : Option String :=
  nonempty? (workspace.setting? (variablePrefix ++ variableName))

end Workspace

namespace Config

/-- The name of the profile to use: the given one, that of the environment, or that of the only
profile. Empty names do not count. -/
def selectName (workspace : Workspace) (given : Option String) (variablePrefix : String)
    (config : Option Config) : Except SelectionError String :=
  match nonempty? given with
  | some name => .ok name
  | none =>
    match workspace.usedSetting? variablePrefix profileVariable with
    | some name => .ok name
    | none =>
      match config.map fun config => config.profiles.names with
      | some [name] => .ok name
      | available => .error (.notSelected variablePrefix available)

/-- The profile to use, with its name. -/
def select (config : Config) (workspace : Workspace) (given : Option String)
    (variablePrefix : String) : Except SelectionError (String × Profile) := do
  let name ← selectName workspace given variablePrefix (some config)
  match config.profiles.get? name with
  | some profile => pure (name, profile)
  | none => .error (.unknown name config.profiles.names)

end Config

namespace Profile

/-- Where the tokens of a profile come from. -/
def tokenSource (profile : Profile) (workspace : Workspace) (variablePrefix : String) :
    Except SelectionError (TokenSource × List LogEntry) :=
  match workspace.usedSetting? variablePrefix tokenVariable with
  | some token => .ok (.given token, [⟨.debug, "Using access token from environment"⟩])
  | none =>
    let stored := workspace.usedSetting? variablePrefix secretVariable
    match (nonempty? profile.clientSecret).or stored with
    | some secret =>
      if profile.tenantId = "" || profile.clientId = "" then
        .error (.noCredentials variablePrefix)
      else
        .ok (.fetched
          { tenantId := profile.tenantId
            clientId := profile.clientId
            clientSecret := secret
            resource := profile.url }, [])
    | none => .error (.noCredentials variablePrefix)

/-- The endpoint of a profile. -/
def endpoint (profile : Profile) (workspace : Workspace) (variablePrefix : String) :
    Except SelectionError (Endpoint × List LogEntry) :=
  (profile.tokenSource workspace variablePrefix).map fun (tokens, log) =>
    ({ environmentUrl := profile.url, tokens := tokens, solution := profile.solution }, log)

end Profile

end ErdDeploy
