import ErdDeploy.Text.Digit

/-!
Command line arguments.

A `Grammar` names the options of a command and says what it takes beside them. Arguments are
first told apart one by one: an argument that begins with a hyphen is an option, unless it is a
lone hyphen, looks like a negative number or holds a space; two hyphens alone end the options. A
long option may be cut short where that is unambiguous, and carry its value after an equals sign;
short options may be run together, the last one with its value. An argument is read as a whole or
not at all: a mistake at its end takes away the options in front of it.

`Grammar.scan` then reads from left to right. What was read before a mistake stays part of the
result, since a request for help is heeded wherever it comes first.
-/

namespace ErdDeploy

/-- An option of a command. -/
structure OptionSpec (κ : Type) where
  key : κ
  /-- The ways to write the option, as they are listed in messages. -/
  names : List String
  takesValue : Bool

/-- What a command takes beside its options. -/
inductive Operand
  | none
  /-- One argument. -/
  | one (name : String)
  /-- An argument and all that follows it, options or not. -/
  | rest (name : String)
  deriving DecidableEq, Repr

/-- How the arguments of a command are read. -/
structure Grammar (κ : Type) where
  /-- The name of the command in messages. -/
  program : String
  options : List (OptionSpec κ)
  operand : Operand

/-- A mistake in the arguments. -/
inductive ArgumentError
  /-- An option is cut so short that several could be meant. -/
  | ambiguous (written : String) (candidates : List String)
  | valueMissing (names : List String)
  /-- An option that takes no value has one. -/
  | valueUnwanted (names : List String) (value : String)
  | operandMissing (name : String)
  | invalidChoice (name written : String) (choices : List String)
  | unrecognized (arguments : List String)
  deriving DecidableEq, Repr

namespace ArgumentError

/-- A text in quotes. -/
def quoted (text : String) : String :=
  String.ofList (Text.quoted text.toList)

/-- What is reported of a mistake. -/
def message : ArgumentError → String
  | .ambiguous written candidates =>
    "ambiguous option: " ++ written ++ " could match " ++ String.intercalate ", " candidates
  | .valueMissing names =>
    "argument " ++ String.intercalate "/" names ++ ": expected one argument"
  | .valueUnwanted names value =>
    "argument " ++ String.intercalate "/" names ++ ": ignored explicit argument " ++
      quoted value
  | .operandMissing name => "the following arguments are required: " ++ name
  | .invalidChoice name written choices =>
    "argument " ++ name ++ ": invalid choice: " ++ quoted written ++ " (choose from " ++
      String.intercalate ", " (choices.map quoted) ++ ")"
  | .unrecognized arguments =>
    "unrecognized arguments: " ++ String.intercalate " " arguments

end ArgumentError

/-! ## Telling arguments apart -/

/-- An option as it was written. -/
structure WrittenOption (κ : Type) where
  spec : OptionSpec κ
  /-- Whether it was written with a single hyphen. -/
  isShort : Bool
  /-- What is written in one argument with the option: its value, or further short options. -/
  attached : Option (List Char)

/-- An argument, told apart. -/
inductive Argument (κ : Type)
  | option (written : WrittenOption κ)
  /-- An option that the command does not have. -/
  | unknown
  | plain
  /-- The two hyphens that end the options. -/
  | separator

/-- The argument that ends the options. -/
def separatorText : String := "--"

/-- A text up to the first equals sign, and what follows the sign, if there is one. -/
def splitAtSign (text : List Char) : List Char × Option (List Char) :=
  match text.dropWhile (· != '=') with
  | [] => (text, none)
  | _ :: value => (text.takeWhile (· != '='), some value)

/-- Whether a text is a hyphen and a decimal number without exponent. -/
def looksNegative (text : List Char) : Bool :=
  let isDigit (c : Char) : Bool := (Text.decimalValue? c).isSome
  match text with
  | '-' :: rest =>
    let withoutBreak := if rest.getLast? == some '\n' then rest.dropLast else rest
    match withoutBreak.dropWhile isDigit with
    | [] => !withoutBreak.isEmpty
    | '.' :: fraction => !fraction.isEmpty && fraction.all isDigit
    | _ => false
  | _ => false

/-- Whether a way to write an option has a single hyphen. -/
def isShortName (name : List Char) : Bool :=
  name[1]? != some '-'

namespace Grammar

variable {κ : Type}

/-- The option that is written in a given way. -/
def find? (grammar : Grammar κ) (name : List Char) : Option (OptionSpec κ) :=
  grammar.options.find? fun spec => spec.names.contains (String.ofList name)

/-- Every way to write every option. -/
def writings (grammar : Grammar κ) : List (OptionSpec κ × String) :=
  grammar.options.flatMap fun spec => spec.names.map fun name => (spec, name)

/-- The options that a text with two hyphens may be short for. -/
def longCandidates (grammar : Grammar κ) (text : List Char) :
    List (WrittenOption κ × String) :=
  let (beginning, value) := splitAtSign text
  (grammar.writings.filter fun writing => beginning.isPrefixOf writing.2.toList).map
    fun (spec, name) => (⟨spec, isShortName name.toList, value⟩, name)

/-- The options that a text with one hyphen may stand for: a short one with more after it, or a
way to write an option that begins with the text. -/
def shortCandidates (grammar : Grammar κ) (text : List Char) :
    List (WrittenOption κ × String) :=
  grammar.writings.filterMap fun (spec, name) =>
    let isShort := isShortName name.toList
    if name.toList = text.take 2 then
      some (⟨spec, isShort, some (text.drop 2)⟩, name)
    else if text.isPrefixOf name.toList then some (⟨spec, isShort, none⟩, name)
    else none

/-- The options that a text may stand for. -/
def candidates (grammar : Grammar κ) (text : List Char) : List (WrittenOption κ × String) :=
  match text with
  | _ :: '-' :: _ => grammar.longCandidates text
  | _ => grammar.shortCandidates text

/-- The option that a text is in full, with the value that an equals sign may attach to it. -/
def inFull? (grammar : Grammar κ) (text : List Char) : Option (WrittenOption κ) :=
  match grammar.find? text with
  | some spec => some ⟨spec, isShortName text, none⟩
  | none =>
    match splitAtSign text with
    | (name, some value) => (grammar.find? name).map fun spec =>
        ⟨spec, isShortName name, some value⟩
    | (_, none) => none

/-- Tell what an argument that begins with a hyphen is. -/
def classifyHyphen (grammar : Grammar κ) (text : List Char) :
    Except ArgumentError (Argument κ) :=
  match grammar.inFull? text with
  | some written => .ok (.option written)
  | none =>
    match grammar.candidates text with
    | [(written, _)] => .ok (.option written)
    | [] =>
      .ok (if looksNegative text || text.contains ' ' then .plain else .unknown)
    | several => .error (.ambiguous (String.ofList text) (several.map Prod.snd))

/-- Tell what an argument is. -/
def classify (grammar : Grammar κ) (text : String) : Except ArgumentError (Argument κ) :=
  match text.toList with
  | '-' :: c :: cs => grammar.classifyHyphen ('-' :: c :: cs)
  | _ => .ok .plain

/-- Tell what each of some arguments is. -/
def classifyAll (grammar : Grammar κ) : List String → Except ArgumentError (List (Argument κ))
  | [] => .ok []
  | text :: texts =>
    if text = separatorText then .ok (.separator :: texts.map fun _ => .plain)
    else do
      let argument ← grammar.classify text
      let arguments ← grammar.classifyAll texts
      pure (argument :: arguments)

end Grammar

/-! ## Reading -/

/-- An option that was read, with its value if it has one. -/
structure GivenOption (κ : Type) where
  key : κ
  value : Option String

/-- What was read of some arguments. -/
structure Scan (κ : Type) where
  options : List (GivenOption κ)
  /-- The operand, and what follows it if it takes all. -/
  operand : Option (List String)
  /-- What nothing was found for. -/
  extras : List String
  /-- The mistake at which reading ended. -/
  mistake : Option ArgumentError

namespace Scan

variable {κ : Type}

/-- Nothing was read. -/
def empty : Scan κ :=
  ⟨[], none, [], none⟩

/-- Reading ended at a mistake. -/
def failed (mistake : ArgumentError) : Scan κ :=
  { (empty : Scan κ) with mistake := some mistake }

/-- Put options in front of what was read. -/
def withOptions (options : List (GivenOption κ)) (scan : Scan κ) : Scan κ :=
  { scan with options := options ++ scan.options }

/-- Put extras in front of what was read. -/
def withExtras (extras : List String) (scan : Scan κ) : Scan κ :=
  { scan with extras := extras ++ scan.extras }

end Scan

/-- The options that one argument holds. -/
structure Cluster (κ : Type) where
  given : List (GivenOption κ)
  /-- The last option, if its value is still to come. -/
  awaiting : Option (OptionSpec κ)

namespace Cluster

variable {κ : Type}

/-- Put an option without value in front. -/
def cons (spec : OptionSpec κ) (cluster : Cluster κ) : Cluster κ :=
  { cluster with given := ⟨spec.key, none⟩ :: cluster.given }

/-- An option with nothing attached to it. -/
def bare (spec : OptionSpec κ) : Cluster κ :=
  if spec.takesValue then ⟨[], some spec⟩ else ⟨[⟨spec.key, none⟩], none⟩

/-- An option with its value attached to it. Two hyphens are taken away and leave it without
one. -/
def valued (spec : OptionSpec κ) (value : List Char) : Cluster κ :=
  let text := String.ofList value
  ⟨[⟨spec.key, if text = separatorText then none else some text⟩], none⟩

end Cluster

namespace Grammar

variable {κ : Type}

/-- The options of an argument, from one with something attached to it on. What is attached to a
short option without value are further short options, each of which the command has to have. -/
def attached (grammar : Grammar κ) (spec : OptionSpec κ) (isShort : Bool) (text : List Char) :
    Except ArgumentError (Cluster κ) :=
  if spec.takesValue then .ok (.valued spec text)
  else
    let unwanted : ArgumentError := .valueUnwanted spec.names (String.ofList text)
    match text with
    | [] => .error unwanted
    | c :: cs =>
      match if isShort then grammar.find? ['-', c] else none with
      | none => .error unwanted
      | some next =>
        (if cs.isEmpty then .ok (.bare next) else grammar.attached next true cs).map
          (Cluster.cons spec)

/-- The options of an argument. -/
def cluster (grammar : Grammar κ) (written : WrittenOption κ) :
    Except ArgumentError (Cluster κ) :=
  match written.attached with
  | none => .ok (.bare written.spec)
  | some text => grammar.attached written.spec written.isShort text

/-- Read arguments that were told apart, each with its text. The operand is what is still wanted;
a separator right after it, or in front of it, is passed over. -/
def scan (grammar : Grammar κ) (operand : Operand) (afterOperand : Bool) :
    List (String × Argument κ) → Scan κ
  | [] => .empty
  | (_, .option written) :: rest =>
    match grammar.cluster written with
    | .error mistake => .failed mistake
    | .ok cluster =>
      match cluster.awaiting with
      | none => (scan grammar operand false rest).withOptions cluster.given
      | some spec =>
        match rest with
        | (value, .plain) :: after =>
          (scan grammar operand false after).withOptions
            (cluster.given ++ [⟨spec.key, some value⟩])
        | _ => .failed (.valueMissing spec.names)
  | (text, .unknown) :: rest => (scan grammar operand false rest).withExtras [text]
  | (text, .plain) :: rest =>
    match operand with
    | .none => (scan grammar .none false rest).withExtras [text]
    | .one _ => { scan grammar .none true rest with operand := some [text] }
    | .rest _ => { (Scan.empty : Scan κ) with operand := some (text :: rest.map Prod.fst) }
  | (text, .separator) :: rest =>
    match operand with
    | .none =>
      let others := scan grammar .none false rest
      if afterOperand then others else others.withExtras [text]
    | .one _ =>
      let others := scan grammar operand false rest
      if rest.isEmpty then others.withExtras [text] else others
    | .rest _ =>
      if rest.isEmpty then (Scan.empty : Scan κ).withExtras [text]
      else { (Scan.empty : Scan κ) with operand := some (text :: rest.map Prod.fst) }

/-- Read arguments. -/
def read (grammar : Grammar κ) (texts : List String) : Scan κ :=
  match grammar.classifyAll texts with
  | .error mistake => .failed mistake
  | .ok arguments => grammar.scan grammar.operand false (texts.zip arguments)

end Grammar

end ErdDeploy
