import ErdDeploy.Text.Blank

/-!
Values of an enum block.

A value stands alone on its line. Around it there may be blanks, quotes, commas and semicolons,
and after it a note in brackets that runs to the end of the line.
-/

namespace ErdDeploy.EnumValue

/-- What is trimmed from a value beside the note: spaces, tabs, quotes and separators. -/
def isTrimmed (c : Char) : Bool :=
  c = ' ' || c = '\t' || c = '"' || c = '\x27' || c = '\x60' || c = ',' || c = ';'

/-- Whether a text, read from just behind an opening bracket, closes the note at its end: only
blanks follow the last closing bracket, and no line feed comes before it. -/
def closesNote (cs : List Char) : Bool :=
  match cs.reverse.dropWhile Text.isBlank with
  | ']' :: before => !before.contains '\n'
  | _ => false

/-- The text up to the first bracket that opens a note. -/
def dropNote : List Char → List Char
  | [] => []
  | c :: cs => if c = '[' && closesNote cs then [] else c :: dropNote cs

/-- The value that a line holds. -/
def clean (text : List Char) : List Char :=
  Text.strip isTrimmed (dropNote (Text.trim text))

/-- Add a value at the end, unless it is empty or already there. -/
def addNew (values : List String) (value : List Char) : List String :=
  let value := String.ofList value
  if value = "" || values.contains value then values else values ++ [value]

end ErdDeploy.EnumValue
