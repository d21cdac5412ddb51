import ErdDeploy.Data.OrderedMap
import ErdDeploy.Schema.Field
import ErdDeploy.Source.Line

/-!
Field lines: a name, a type and marks.

The kind of a field is told, in this order, by a key marker among the marks, by a type that
names an enum, by the two types that stand for references, and is scalar otherwise. Whether a
field is required is told by the marks alone, except that a key always is.
-/

namespace ErdDeploy

/-- The three parts of a field line. -/
structure FieldLine where
  name : List Char
  typeToken : List Char
  marks : List Char
  deriving DecidableEq, Repr

namespace FieldLine

/-- The quotes that may stand around a name or a type. -/
def isQuote (c : Char) : Bool :=
  c = '"' || c = '\x27' || c = '\x60'

/-- A text up to and including the first closing parenthesis, and what follows. -/
def splitAfterParenthesis (cs : List Char) : List Char × List Char :=
  (cs.takeWhile (· != ')') ++ [')'], (cs.dropWhile (· != ')')).drop 1)

/-- The type and the marks of what follows the name. A type whose first word opens a
parenthesis runs to the closing one. -/
def splitType (rest : List Char) : List Char × List Char :=
  if (Text.firstWord rest).contains '(' && rest.contains ')' then splitAfterParenthesis rest
  else (Text.firstWord rest, Text.afterFirstWord rest)

/-- Move what follows a bracket inside the type to the marks. -/
def splitBracket (parts : List Char × List Char) : List Char × List Char :=
  if parts.1.contains '[' then
    (parts.1.takeWhile (· != '['), parts.1.dropWhile (· != '[') ++ ' ' :: parts.2)
  else parts

/-- Split a line, unless it lacks a name or a type. -/
def split? (text : List Char) : Option FieldLine :=
  let text := Text.trim text
  let rest := Text.trim (Text.afterFirstWord text)
  if rest.isEmpty then none
  else
    let name := Text.strip isQuote (Text.firstWord text)
    let parts := splitBracket (splitType rest)
    let typeToken := Text.strip isQuote parts.1
    if name.isEmpty || typeToken.isEmpty then none
    else some ⟨name, typeToken, Text.trim parts.2⟩

/-! ## Markers -/

/-- What follows some words with blanks between them, in any case. -/
def dropWords? : (words : List (List Char)) → List Char → Option (List Char)
  | [], cs => some cs
  | [word], cs => Text.dropKeyword? word cs
  | word :: words, cs =>
    match Text.dropKeyword? word cs with
    | some (c :: rest) =>
      if Text.isBlank c then dropWords? words (rest.dropWhile Text.isBlank) else none
    | _ => none

/-- Whether a text begins with some words and the last of them ends there. -/
def beginsWithWords (words : List (List Char)) (cs : List Char) : Bool :=
  match dropWords? words cs with
  | some (c :: _) => !Text.isWord c
  | some [] => true
  | none => false

/-- Whether some words stand anywhere in a text as words of their own; `afterWord` says whether
a word character comes just before it. -/
def containsWords (words : List (List Char)) (afterWord : Bool) : List Char → Bool
  | [] => false
  | c :: cs =>
    (!afterWord && beginsWithWords words (c :: cs)) ||
      containsWords words (Text.isWord c) cs

/-- Whether some marks make a field a key. -/
def marksKey (marks : List Char) : Bool :=
  containsWords ["pk".toList] false marks ||
    containsWords ["primary".toList, "key".toList] false marks

/-- Whether some marks make a field required. -/
def marksRequired (marks : List Char) : Bool :=
  containsWords ["not".toList, "null".toList] false marks

/-! ## Interpretation -/

/-- The type that stands for a reference to another table. -/
def lookupType : String := "Lookup"

/-- The type that stands for a reference to a user. -/
def personType : String := "Person"

/-- A field that holds a single value of the type its token stands for. -/
def valueField (name typeToken : String) (kind : FieldKind) (isRequired : Bool) (line : Int) :
    Except Text.NumeralError Field :=
  (TypeToken.read typeToken.toList).map fun (columnType, maxLength) =>
    ⟨name, typeToken, kind, isRequired, some columnType, maxLength, [], none, line⟩

/-- The field that the parts of a line declare. -/
def toField (parts : FieldLine) (enums : OrderedMap Enumeration) (line : Int) :
    Except Text.NumeralError Field :=
  let name := String.ofList parts.name
  let typeToken := String.ofList parts.typeToken
  let isRequired := marksRequired parts.marks
  if marksKey parts.marks then valueField name typeToken .primaryKey true line
  else
    match enums.get? typeToken with
    | some enum =>
      .ok { Field.plain name typeToken (.enum enum.name) isRequired line with
        enumValues := enum.values }
    | none =>
      if typeToken = lookupType then
        .ok (.plain name typeToken (.lookup none) isRequired line)
      else if typeToken = personType then
        .ok (.plain name typeToken .userReference isRequired line)
      else valueField name typeToken .scalar isRequired line

/-- The field that a line declares, if it has a name and a type. -/
def interpret (enums : OrderedMap Enumeration) (line : SourceLine) :
    Except Text.NumeralError (Option Field) :=
  match split? line.text with
  | none => .ok none
  | some parts => (parts.toField enums line.number).map some

end FieldLine

end ErdDeploy
