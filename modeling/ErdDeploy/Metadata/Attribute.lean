/-!
Attributes: the columns that a remote table is created with.

What every attribute has in common stands in its `AttributeHead`; the kind of an attribute
carries the rest. A lookup that comes with a relationship is a head alone.
-/

namespace ErdDeploy

/-- What every attribute has. -/
structure AttributeHead where
  schemaName : String
  displayName : String
  isRequired : Bool
  languageCode : Int
  deriving DecidableEq, Repr

/-- What an attribute holds. -/
inductive AttributeKind
  | string (maxLength : Int) (isPrimaryName : Bool)
  | memo (maxLength : Int)
  | integer
  | decimal (precision : Int)
  | money (precision : Int)
  | boolean
  | dateTime (dateOnly : Bool)
  /-- A choice of the global option set with the given identifier. -/
  | picklist (optionSetId : String)
  | lookup
  deriving DecidableEq, Repr

namespace AttributeKind

/-- The word for a kind. -/
def word : AttributeKind → String
  | .string .. => "string"
  | .memo _ => "memo"
  | .integer => "integer"
  | .decimal _ => "decimal"
  | .money _ => "money"
  | .boolean => "boolean"
  | .dateTime _ => "datetime"
  | .picklist _ => "picklist"
  | .lookup => "lookup"

/-- The longest memo. -/
def memoLength : Int := 4000

/-- The places behind the point of a number or an amount. -/
def defaultPrecision : Int := 2

/-- The longest text that declares no length. -/
def defaultTextLength : Int := 100

end AttributeKind

/-- A column of a table to be created. -/
structure Attribute extends AttributeHead where
  kind : AttributeKind
  deriving DecidableEq, Repr

namespace Attribute

/-- Whether the attribute names the rows of its table. -/
def isPrimaryName (a : Attribute) : Bool :=
  match a.kind with
  | .string _ isPrimaryName => isPrimaryName
  | _ => false

/-- The option set that the attribute is bound to. -/
def optionSetId? (a : Attribute) : Option String :=
  match a.kind with
  | .picklist optionSetId => some optionSetId
  | _ => none

end Attribute

end ErdDeploy
