import ErdDeploy.Command.Invocation
import ErdDeploy.Settings.Selection

/-!
What a command looks at in the system that it runs on.

A command looks at two files at most, the configuration and its source, and at three variables
of the environment. Whoever runs a command reads these beforehand; `Workspace.ofParts` is the
system as far as it is known then.
-/

namespace ErdDeploy

/-- The files that a command looks at. -/
def Command.paths (options : GlobalOptions) (command : Command) : List FilePath :=
  let config := Config.path (nonempty? options.config)
  match command with
  | .parse source _ => [config, .ofText source]
  | .deploy source _ _ => [config, .ofText source]
  | .profiles => [config]

/-- The variables that a command looks at. -/
def GlobalOptions.settingNames (options : GlobalOptions) : List String :=
  [profileVariable, tokenVariable, secretVariable].map (options.variablePrefix ++ ·)

/-- A system of which only some places and variables are known. -/
def Workspace.ofParts (directory : String) (sights : List (FilePath × Sight))
    (settings : List (String × String)) : Workspace :=
  ⟨directory, fun path => (sights.lookup path).getD (.ok none), fun name => settings.lookup name⟩

end ErdDeploy
