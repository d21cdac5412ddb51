import ErdDeploy.Metadata.Attribute

/-!
Payloads: the three kinds of remote objects, as they are to be created.
-/

namespace ErdDeploy

/-- An option with its code. -/
structure OptionValue where
  value : Int
  label : String
  deriving DecidableEq, Repr

/-- A global option set. -/
structure OptionSetPayload where
  name : String
  displayName : String
  options : List OptionValue
  languageCode : Int
  deriving DecidableEq, Repr

/-- A table owned by users, with its columns. -/
structure TablePayload where
  schemaName : String
  displayName : String
  attributes : List Attribute
  languageCode : Int
  deriving DecidableEq, Repr

/-- A one-to-many relationship and the lookup column that it creates. -/
structure RelationshipPayload where
  schemaName : String
  referencedEntity : String
  referencedAttribute : String
  referencingEntity : String
  lookup : AttributeHead
  deriving DecidableEq, Repr

/-- An object to be created. -/
inductive Payload
  | optionSet (payload : OptionSetPayload)
  | table (payload : TablePayload)
  | relationship (payload : RelationshipPayload)
  deriving DecidableEq, Repr

/-- The kinds of remote objects. -/
inductive ObjectKind
  | optionSet
  | table
  | relationship
  deriving DecidableEq, Repr

/-- The word for a kind of objects. -/
def ObjectKind.word : ObjectKind → String
  | .optionSet => "option_set"
  | .table => "table"
  | .relationship => "relationship"

/-- The kind of a word. -/
def ObjectKind.ofWord? (word : String) : Option ObjectKind :=
  [ObjectKind.optionSet, .table, .relationship].find? fun kind => kind.word = word

/-- The attribute that names the rows of the table: the first that says so. -/
def TablePayload.primaryName? (payload : TablePayload) : Option Attribute :=
  payload.attributes.find? Attribute.isPrimaryName

namespace Payload

/-- The kind of object that a payload creates. -/
def kind : Payload → ObjectKind
  | .optionSet _ => .optionSet
  | .table _ => .table
  | .relationship _ => .relationship

/-- The name under which the object is created. -/
def name : Payload → String
  | .optionSet payload => payload.name
  | .table payload => payload.schemaName
  | .relationship payload => payload.schemaName

end Payload

end ErdDeploy
