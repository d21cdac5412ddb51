import ErdDeploy.Data.Value

/-!
Writing plain data as JSON text in ASCII: items are separated by a comma and a space, a name
from its value by a colon and a space, and every character outside printable ASCII is escaped,
by two escapes where it needs two UTF-16 units.
-/

namespace ErdDeploy.Json

/-- The escape of one UTF-16 unit. -/
def unitEscape (n : Nat) : List Char :=
  '\\' :: 'u' :: Text.hexDigits 4 n

/-- One character of a JSON string. -/
def escapeChar (c : Char) : List Char :=
  if c = '"' || c = '\\' then ['\\', c]
  else if c = '\n' then ['\\', 'n']
  else if c = '\r' then ['\\', 'r']
  else if c = '\t' then ['\\', 't']
  else if c.toNat = 8 then ['\\', 'b']
  else if c.toNat = 12 then ['\\', 'f']
  else if 32 ≤ c.toNat && c.toNat < 127 then [c]
  else if c.toNat < 0x10000 then unitEscape c.toNat
  else
    let offset := c.toNat - 0x10000
    unitEscape (0xD800 + offset / 0x400) ++ unitEscape (0xDC00 + offset % 0x400)

/-- A JSON string. -/
def writeText (s : String) : String :=
  String.ofList ('"' :: s.toList.flatMap escapeChar ++ ['"'])

/-- A number that is not finite is written by the word that reads back. -/
def writeFloat (x : Binary64) : String :=
  match x with
  | .nan => "NaN"
  | .infinity false => "Infinity"
  | .infinity true => "-Infinity"
  | .finite .. => DecimalText.shortest x

mutual

/-- The JSON text of a value. -/
def write : Value → String
  | .null => "null"
  | .bool true => "true"
  | .bool false => "false"
  | .int n => toString n
  | .float x => writeFloat x
  | .text s => writeText s
  | .list items => "[" ++ writeItems items ++ "]"
  | .record members => "\x7b" ++ writeMembers members ++ "\x7d"
  | .moment written => writeText written

/-- The items of an array. -/
def writeItems : List Value → String
  | [] => ""
  | [item] => write item
  | item :: items => write item ++ ", " ++ writeItems items

/-- The members of an object. -/
def writeMembers : List (String × Value) → String
  | [] => ""
  | [(name, value)] => writeText name ++ ": " ++ write value
  | (name, value) :: members =>
    writeText name ++ ": " ++ write value ++ ", " ++ writeMembers members

end

end ErdDeploy.Json
