import ErdDeploy.Command.Arguments

/-!
The command line of the program: which commands there are and what they take.
-/

namespace ErdDeploy

/-- What holds for every command. -/
structure GlobalOptions where
  /-- What the names of environment variables begin with. -/
  variablePrefix : String := ""
  /-- The path of the configuration, if one is named. -/
  config : Option String := none
  isVerbose : Bool := false
  deriving DecidableEq, Repr

/-- A command. -/
inductive Command
  /-- Show what a source declares. -/
  | parse (source : String) (isStrict : Bool)
  /-- Create what a source declares. -/
  | deploy (source : String) (profile : Option String) (isDryRun : Bool)
  /-- List the profiles. -/
  | profiles
  deriving DecidableEq, Repr

/-- What the arguments of the program ask for. -/
inductive Invocation
  | help
  /-- Nothing, for a mistake in the arguments of the named program or command. -/
  | misuse (program : String) (mistake : ArgumentError)
  | run (options : GlobalOptions) (command : Command)
  deriving DecidableEq, Repr

/-- What is reported of a mistake. -/
def misuseMessage (program : String) (mistake : ArgumentError) : String :=
  program ++ ": error: " ++ mistake.message

namespace Invocation

/-- The name of the program. -/
def programName : String := "erd-migrator"

/-! ## The program -/

/-- The options of the program. -/
inductive GlobalKey
  | help
  | variablePrefix
  | config
  | verbose

/-- The names of the commands. -/
def commandNames : List String := ["parse", "deploy", "profiles"]

/-- What the command is called in messages. -/
def commandOperand : String := "command"

/-- The grammar of the program. -/
def globalGrammar : Grammar GlobalKey where
  program := programName
  options :=
    [⟨.help, ["-h", "--help"], false⟩, ⟨.variablePrefix, ["--env-prefix"], true⟩,
      ⟨.config, ["--config"], true⟩, ⟨.verbose, ["--verbose", "-v"], false⟩]
  operand := .rest commandOperand

/-- What stands for the beginning of variable names where the option for it has no value. -/
def missingPrefix : String := "[]"

/-- The options that were given; none if help was asked for. -/
def globalOptions (options : GlobalOptions) :
    List (GivenOption GlobalKey) → Option GlobalOptions
  | [] => some options
  | given :: rest =>
    match given.key with
    | .help => none
    | .variablePrefix =>
      globalOptions { options with variablePrefix := given.value.getD missingPrefix } rest
    | .config => globalOptions { options with config := given.value } rest
    | .verbose => globalOptions { options with isVerbose := true } rest

/-! ## Commands -/

/-- The options of the commands. -/
inductive CommandKey
  | help
  | strict
  | profile
  | dryRun
  deriving DecidableEq

/-- What a source file is called in messages. -/
def sourceOperand : String := "erd_file"

/-- The option that asks for help. -/
def helpOption : OptionSpec CommandKey :=
  ⟨.help, ["-h", "--help"], false⟩

/-- The grammar of a command. -/
def commandGrammar? : String → Option (Grammar CommandKey)
  | "parse" => some ⟨programName ++ " parse",
      [helpOption, ⟨.strict, ["--strict"], false⟩], .one sourceOperand⟩
  | "deploy" => some ⟨programName ++ " deploy",
      [helpOption, ⟨.profile, ["--profile", "-p"], true⟩, ⟨.dryRun, ["--dry-run"], false⟩],
      .one sourceOperand⟩
  | "profiles" => some ⟨programName ++ " profiles", [helpOption], .none⟩
  | _ => none

/-- Whether an option was given. -/
def isGiven (key : CommandKey) (options : List (GivenOption CommandKey)) : Bool :=
  options.any fun given => given.key == key

/-- The last value of an option. -/
def lastValue? (key : CommandKey) (options : List (GivenOption CommandKey)) : Option String :=
  (options.reverse.find? fun given => given.key == key).bind GivenOption.value

/-- The command of a name, with the options and the source that were given. -/
def commandOf (name source : String) (options : List (GivenOption CommandKey)) : Command :=
  match name with
  | "parse" => .parse source (isGiven .strict options)
  | "deploy" => .deploy source (lastValue? .profile options) (isGiven .dryRun options)
  | _ => .profiles

/-- The operand that is missing, and its name. -/
def missingOperand? (operand : Operand) (given : Option (List String)) : Option String :=
  match operand, given with
  | .one name, none => some name
  | .rest name, none => some name
  | _, _ => none

/-- Read the arguments of a command. Arguments that nothing was found for are reported for the
program as a whole, those before the command first. -/
def ofCommand (options : GlobalOptions) (extras : List String) (name : String)
    (texts : List String) : Invocation :=
  match commandGrammar? name with
  | none => .misuse programName (.invalidChoice commandOperand name commandNames)
  | some grammar =>
    let scan := grammar.read texts
    if isGiven .help scan.options then .help
    else
      match scan.mistake, missingOperand? grammar.operand scan.operand, extras ++ scan.extras with
      | some mistake, _, _ => .misuse grammar.program mistake
      | none, some missing, _ => .misuse grammar.program (.operandMissing missing)
      | none, none, [] =>
        .run options (commandOf name ((scan.operand.bind List.head?).getD "") scan.options)
      | none, none, extras => .misuse programName (.unrecognized extras)

/-- Read the arguments of the program. -/
def ofArguments (texts : List String) : Invocation :=
  let scan := globalGrammar.read texts
  match globalOptions {} scan.options, scan.mistake, scan.operand with
  | none, _, _ => .help
  | some _, some mistake, _ => .misuse programName mistake
  | some options, none, some (name :: texts) => ofCommand options scan.extras name texts
  | some _, none, _ => .misuse programName (.operandMissing commandOperand)

end Invocation

end ErdDeploy
