import ErdDeploy.Text.Alphanumeric
import ErdDeploy.Text.Blank
import ErdDeploy.Text.Digit
import ErdDeploy.Text.Letter

/-!
Column types, and the free-text types that stand for them.

A type token is a name of word characters and points, perhaps with arguments in parentheses.
Names are compared in lower case. A name that is not in the table, and a token of any other
shape, stands for short text. The first argument is a length where the type has one.
-/

namespace ErdDeploy

/-- The type of a column that holds a single value. -/
inductive ColumnType
  | identifier
  | string
  | memo
  | integer
  | decimal
  | money
  | boolean
  | date
  | dateTime
  deriving DecidableEq, Repr

namespace ColumnType

/-- The word for a type. -/
def word : ColumnType → String
  | .identifier => "identifier"
  | .string => "string"
  | .memo => "memo"
  | .integer => "integer"
  | .decimal => "decimal"
  | .money => "money"
  | .boolean => "boolean"
  | .date => "date"
  | .dateTime => "datetime"

/-- All types. -/
def all : List ColumnType :=
  [.identifier, .string, .memo, .integer, .decimal, .money, .boolean, .date, .dateTime]

/-- The type of a word. -/
def ofWord? (word : String) : Option ColumnType :=
  all.find? fun type => type.word = word

/-- Every type is found by its word. -/
@[simp] theorem ofWord?_word (type : ColumnType) : ofWord? type.word = some type := by
  cases type <;> decide

/-- The free-text names of types, in lower case. -/
def names : List (String × ColumnType) :=
  [("guid", .identifier), ("uuid", .identifier), ("uniqueidentifier", .identifier),
    ("string", .string), ("varchar", .string), ("nvarchar", .string), ("char", .string),
    ("nchar", .string), ("text", .memo), ("ntext", .memo), ("memo", .memo),
    ("longtext", .memo), ("int", .integer), ("integer", .integer), ("bigint", .integer),
    ("smallint", .integer), ("tinyint", .integer), ("decimal", .decimal),
    ("numeric", .decimal), ("float", .decimal), ("double", .decimal), ("real", .decimal),
    ("money", .money), ("currency", .money), ("bool", .boolean), ("boolean", .boolean),
    ("bit", .boolean), ("date", .date), ("datetime", .dateTime), ("datetime2", .dateTime),
    ("timestamp", .dateTime)]

/-- The type of a name; short text if the name is not known. -/
def ofName (name : List Char) : ColumnType :=
  (names.lookup (String.ofList (Text.lower name))).getD .string

/-- Whether a type takes a length. -/
def hasLength : ColumnType → Bool
  | .string => true
  | .identifier => true
  | _ => false

end ColumnType

namespace TypeToken

/-- The characters of the name of a type. -/
def isNameChar (c : Char) : Bool :=
  Text.isWord c || c == '.'

/-- The name and the arguments of a token, if it has that shape. Arguments run to the first
closing parenthesis, which ends the token. -/
def split? (token : List Char) : Option (List Char × Option (List Char)) :=
  let name := token.takeWhile isNameChar
  if name.isEmpty then none
  else
    match (token.dropWhile isNameChar).dropWhile Text.isBlank with
    | [] => some (name, none)
    | '(' :: inner =>
      match inner.dropWhile (· != ')') with
      | [_] => some (name, some (inner.takeWhile (· != ')')))
      | _ => none
    | _ => none

/-- The length that arguments give: the first of them, if it is made of digits. -/
def length? (arguments : List Char) : Except Text.NumeralError (Option Int) :=
  let first := Text.trim (arguments.takeWhile (· != ','))
  if !first.isEmpty && first.all Text.isDigitLike then
    (Text.readNumeral first).map fun n => some (n : Int)
  else .ok none

/-- The type and the length that a token stands for. -/
def read (token : List Char) : Except Text.NumeralError (ColumnType × Option Int) :=
  match split? (Text.trim token) with
  | none => .ok (.string, none)
  | some (name, arguments) =>
    let type := ColumnType.ofName name
    match arguments with
    | none => .ok (type, none)
    | some arguments =>
      if type.hasLength then (length? arguments).map fun length => (type, length)
      else .ok (type, none)

end TypeToken

end ErdDeploy
