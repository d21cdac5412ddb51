import ErdDeploy.Command.Rendering
import ErdDeploy.Command.Surroundings

/-!
The program.

It reads what the command looks at, executes the command, and prints what the command shows. No
network is attached: every request fails, so that a deployment that is not dry reports a failure
for each object.
-/

namespace ErdDeploy

/-- A transport without a network. -/
def detached : Transport Unit Binary64 where
  send _ world := (.error ⟨"no network is attached"⟩, world)
  wait seconds world := (WaitFailure.check seconds, world)
  now _ := Binary64.zero false
  close world := world

/-- What a look at a path finds. What can neither be read nor is a folder counts as absent. -/
def readSight (path : FilePath) : IO (FilePath × Sight) := do
  try
    let bytes ← IO.FS.readBinFile path.text
    pure (path, .ok (some (.file bytes.toList)))
  catch
    | .inappropriateType .. => pure (path, .ok (some .folder))
    | .invalidArgument .. => pure (path, .error .tooLong)
    | _ => pure (path, .ok none)

/-- The value of a variable, if it is set. -/
def readSetting (name : String) : IO (List (String × String)) := do
  let value ← IO.getEnv name
  pure (value.toList.map fun value => (name, value))

/-- The system, as far as a command looks at it. -/
def readWorkspace (options : GlobalOptions) (command : Command) : IO Workspace := do
  let directory ← IO.currentDir
  let sights ← (command.paths options).mapM readSight
  let settings ← options.settingNames.mapM readSetting
  pure (.ofParts (toString directory) sights settings.flatten)

/-- Run a command and give back its code. -/
def runCommand (options : GlobalOptions) (command : Command) : IO UInt32 := do
  let workspace ← readWorkspace options command
  let (transcript, _) := command.execute workspace Console.plain options detached ()
  for line in transcript.lines Console.plain do
    IO.println line
  let (code, reports) := transcript.outcome
  for report in reports do
    IO.eprintln report
  pure code.toUInt32

end ErdDeploy

open ErdDeploy in
/-- The program: its arguments say what to do. -/
def main (texts : List String) : IO UInt32 := do
  match Invocation.ofArguments texts with
  | .help =>
    for line in usageLines do
      IO.println line
    pure 0
  | .misuse program mistake =>
    IO.eprintln (misuseMessage program mistake)
    pure 2
  | .run options command => runCommand options command
