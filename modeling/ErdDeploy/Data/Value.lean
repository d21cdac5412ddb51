import ErdDeploy.Number.DecimalText
import ErdDeploy.Text.Quoted

/-!
Plain data: what a data format holds and what a record is checked and written as.

A record keeps its members in order and may hold a name once only; readers see to that. Whole
numbers have no bound. `Value.display` is the form in which a message shows a value.
-/

namespace ErdDeploy

/-- Plain data. -/
inductive Value
  | null
  | bool (b : Bool)
  | int (n : Int)
  | float (x : Binary64)
  | text (s : String)
  | list (items : List Value)
  | record (members : List (String × Value))
  /-- A date or a time of day, as written. -/
  | moment (written : String)
  deriving Repr, Inhabited

namespace Value

/-- The member of a record. Anything else has no members. -/
def member? (name : String) : Value → Option Value
  | .record members => members.lookup name
  | _ => none

/-- Whether a value counts as something: not null, not false, not zero and not empty. -/
def isPresent : Value → Bool
  | .null => false
  | .bool b => b
  | .int n => n != 0
  | .float x => !x.isZero
  | .text s => s != ""
  | .list items => !items.isEmpty
  | .record members => !members.isEmpty
  | .moment _ => true

/-- Write a member into the members of a record, replacing one of the same name in place. -/
def putMember (name : String) (value : Value) :
    List (String × Value) → List (String × Value)
  | [] => [(name, value)]
  | member :: rest =>
    if member.1 = name then (name, value) :: rest else member :: putMember name value rest

mutual

/-- A value inside a message, a text between quotes. -/
def display : Value → String
  | .null => "None"
  | .bool true => "True"
  | .bool false => "False"
  | .int n => toString n
  | .float x => DecimalText.shortest x
  | .text s => String.ofList (Text.quoted s.toList)
  | .list items => "[" ++ displayItems items ++ "]"
  | .record members => "\x7b" ++ displayMembers members ++ "\x7d"
  | .moment written => written

/-- Items of a list, separated by commas. -/
def displayItems : List Value → String
  | [] => ""
  | [item] => display item
  | item :: items => display item ++ ", " ++ displayItems items

/-- Members of a record, separated by commas. -/
def displayMembers : List (String × Value) → String
  | [] => ""
  | [(name, value)] => String.ofList (Text.quoted name.toList) ++ ": " ++ display value
  | (name, value) :: members =>
    String.ofList (Text.quoted name.toList) ++ ": " ++ display value ++ ", " ++
      displayMembers members

end

/-- A value that is a message itself, or stands in one without quotes. -/
def message : Value → String
  | .text s => s
  | value => value.display

end Value

end ErdDeploy
