import ErdDeploy.Metadata.Payload
import ErdDeploy.Schema.Table
import ErdDeploy.Schema.Relationship
import ErdDeploy.Settings.SchemaSettings

/-!
From a model to payloads.

A table is created with the attribute that names its rows, made from its first key, and one
attribute for each field that no relationship creates. A field that chooses among the values of
an enum needs the identifier of the option set; without it the field is left out with a warning.
-/

namespace ErdDeploy

/-- The longest text of an identifier that declares no length. -/
def identifierLength : Int := 36

/-- Consecutive codes for the values of an enum. -/
def OptionValue.enumerate : (code : Int) → List String → List OptionValue
  | _, [] => []
  | code, label :: labels => ⟨code, label⟩ :: enumerate (code + 1) labels

/-- The option set of an enum. -/
def OptionSetPayload.ofEnum (settings : SchemaSettings) (enum : Enumeration) :
    OptionSetPayload :=
  ⟨settings.naming.optionSetName enum.name, enum.name,
    OptionValue.enumerate settings.optionValueBase enum.values, settings.languageCode⟩

/-- A declared length, unless it is zero or absent. -/
def lengthOr (default : Int) (declared : Option Int) : Int :=
  match declared with
  | some length => if length = 0 then default else length
  | none => default

/-- The kind of attribute for a type of column; short text where no type is known. -/
def AttributeKind.ofColumnType (type : Option ColumnType) (maxLength : Option Int) :
    AttributeKind :=
  match type with
  | some .identifier => .string (lengthOr identifierLength maxLength) false
  | some .memo => .memo memoLength
  | some .integer => .integer
  | some .decimal => .decimal defaultPrecision
  | some .money => .money defaultPrecision
  | some .boolean => .boolean
  | some .date => .dateTime true
  | some .dateTime => .dateTime false
  | some .string => .string (lengthOr defaultTextLength maxLength) false
  | none => .string (lengthOr defaultTextLength maxLength) false

/-- The head of the attribute of a field. -/
def AttributeHead.ofField (settings : SchemaSettings) (field : Field) : AttributeHead :=
  ⟨settings.naming.columnName field.name, field.name, field.isRequired, settings.languageCode⟩

/-- The warning about a field that is left out for want of an option set. -/
def optionSetUnavailable (optionSet field : String) : LogEntry :=
  ⟨.warning, s!"Option set '{optionSet}' unavailable; leaving out field '{field}'"⟩

namespace Attribute

/-- The attribute of a field, unless the option set that it needs is not available. -/
def ofField (settings : SchemaSettings) (optionSetIds : OrderedMap String) (field : Field) :
    Except LogEntry Attribute :=
  let head := AttributeHead.ofField settings field
  match field.enumName with
  | some enum =>
    let optionSet := settings.naming.optionSetName enum
    match optionSetIds.get? optionSet with
    | some id => .ok ⟨head, .picklist id⟩
    | none => .error (optionSetUnavailable optionSet field.name)
  | none => .ok ⟨head, .ofColumnType field.columnType field.maxLength⟩

/-- The attribute that names the rows of a table, made from its key. -/
def ofKey (settings : SchemaSettings) (key : Field) : Attribute :=
  ⟨{ AttributeHead.ofField settings key with isRequired := true },
    .string (lengthOr AttributeKind.defaultTextLength key.maxLength) true⟩

end Attribute

/-- The attributes of some fields, and the warnings about the fields that are left out. -/
def attributesOf (settings : SchemaSettings) (optionSetIds : OrderedMap String) :
    List Field → List Attribute × List LogEntry
  | [] => ([], [])
  | field :: fields =>
    let (columns, warnings) := attributesOf settings optionSetIds fields
    match Attribute.ofField settings optionSetIds field with
    | .ok column => (column :: columns, warnings)
    | .error warning => (columns, warning :: warnings)

/-- The payload of a table, with the warnings about the fields that are left out. -/
def TablePayload.ofTable (settings : SchemaSettings) (optionSetIds : OrderedMap String)
    (table : Table) : Except MissingKey (TablePayload × List LogEntry) :=
  table.displayField.map fun key =>
    let (columns, warnings) := attributesOf settings optionSetIds table.attributeFields
    (⟨table.schemaName, table.name, Attribute.ofKey settings key :: columns,
      settings.languageCode⟩, warnings)

/-- The payload of a relationship with its lookup. -/
def RelationshipPayload.ofRelationship (settings : SchemaSettings) (r : Relationship) :
    RelationshipPayload :=
  ⟨r.schemaName, r.referencedEntity, r.referencedAttribute, r.referencingEntity,
    ⟨r.lookupSchemaName, r.lookupDisplayName, r.isRequired, settings.languageCode⟩⟩

end ErdDeploy
