import ErdDeploy.Data.Value
import ErdDeploy.Metadata.Payload

/-!
Bodies: payloads in the form in which the remote takes them.

The remote wants every text as a label in one language, every type by its full name, and a
number of facts that are the same for all objects of a kind.
-/

namespace ErdDeploy.Body

/-- The full name of a type of the remote. -/
def typeName (name : String) : Value :=
  .text ("Microsoft.Dynamics.CRM." ++ name)

/-- A record with a single member called `Value`. -/
def valued (value : Value) : Value :=
  .record [("Value", value)]

/-- A text in one language. -/
def label (text : String) (languageCode : Int) : Value :=
  .record [
    ("@odata.type", typeName "Label"),
    ("LocalizedLabels", .list [.record [
      ("@odata.type", typeName "LocalizedLabel"),
      ("Label", .text text),
      ("LanguageCode", .int languageCode)]])]

/-- Whether a value has to be given. -/
def requiredLevel (isRequired : Bool) : Value :=
  .record [
    ("Value", .text (if isRequired then "ApplicationRequired" else "None")),
    ("CanBeChanged", .bool true),
    ("ManagedPropertyLogicalName", .text "canmodifyrequirementlevelsettings")]

/-- The members that every attribute has. -/
def headMembers (head : AttributeHead) (typeWord : String) : List (String × Value) :=
  [("@odata.type", typeName (typeWord ++ "AttributeMetadata")),
    ("AttributeType", .text typeWord),
    ("AttributeTypeName", valued (.text (typeWord ++ "Type"))),
    ("SchemaName", .text head.schemaName),
    ("DisplayName", label head.displayName head.languageCode),
    ("Description", label head.displayName head.languageCode),
    ("RequiredLevel", requiredLevel head.isRequired)]

/-- The type of an attribute as the remote calls it. -/
def typeWord : AttributeKind → String
  | .string .. => "String"
  | .memo _ => "Memo"
  | .integer => "Integer"
  | .decimal _ => "Decimal"
  | .money _ => "Money"
  | .boolean => "Boolean"
  | .dateTime _ => "DateTime"
  | .picklist _ => "Picklist"
  | .lookup => "Lookup"

/-- The two options of a truth value. -/
def booleanOptions (languageCode : Int) : Value :=
  .record [
    ("@odata.type", typeName "BooleanOptionSetMetadata"),
    ("OptionSetType", .text "Boolean"),
    ("TrueOption", .record [("Value", .int 1), ("Label", label "Yes" languageCode)]),
    ("FalseOption", .record [("Value", .int 0), ("Label", label "No" languageCode)])]

/-- The least and the greatest value of a numeric attribute. -/
def bounds (least greatest : Int) : List (String × Value) :=
  [("MinValue", .int least), ("MaxValue", .int greatest)]

/-- The members that depend on what an attribute holds. -/
def kindMembers (languageCode : Int) : AttributeKind → List (String × Value)
  | .string maxLength isPrimaryName =>
    [("MaxLength", .int maxLength), ("FormatName", valued (.text "Text"))] ++
      if isPrimaryName then [("IsPrimaryName", .bool true)] else []
  | .memo maxLength => [("Format", .text "TextArea"), ("MaxLength", .int maxLength)]
  | .integer => ("Format", .text "None") :: bounds (-2147483648) 2147483647
  | .decimal precision =>
    ("Precision", .int precision) :: bounds (-100000000000) 100000000000
  | .money precision =>
    ("Precision", .int precision) :: ("PrecisionSource", .int 2) ::
      bounds (-922337203685477) 922337203685477
  | .boolean =>
    [("DefaultValue", .bool false), ("OptionSet", booleanOptions languageCode)]
  | .dateTime dateOnly =>
    [("Format", .text (if dateOnly then "DateOnly" else "DateAndTime")),
      ("DateTimeBehavior", valued (.text (if dateOnly then "DateOnly" else "UserLocal")))]
  | .picklist optionSetId =>
    [("GlobalOptionSet@odata.bind",
      .text ("/GlobalOptionSetDefinitions(" ++ optionSetId ++ ")"))]
  | .lookup => []

/-- The body of an attribute. -/
def ofAttribute (a : Attribute) : Value :=
  .record (headMembers a.toAttributeHead (typeWord a.kind) ++ kindMembers a.languageCode a.kind)

/-- The body of the lookup of a relationship. -/
def ofLookup (head : AttributeHead) : Value :=
  ofAttribute ⟨head, .lookup⟩

/-- The body of an option. -/
def ofOption (languageCode : Int) (option : OptionValue) : Value :=
  .record [("Value", .int option.value), ("Label", label option.label languageCode)]

/-- The body of an option set. -/
def ofOptionSet (payload : OptionSetPayload) : Value :=
  .record [
    ("@odata.type", typeName "OptionSetMetadata"),
    ("Name", .text payload.name),
    ("DisplayName", label payload.displayName payload.languageCode),
    ("Description", label payload.displayName payload.languageCode),
    ("OptionSetType", .text "Picklist"),
    ("IsGlobal", .bool true),
    ("Options", .list (payload.options.map (ofOption payload.languageCode)))]

/-- The body of a table. -/
def ofTable (payload : TablePayload) : Value :=
  .record [
    ("@odata.type", typeName "EntityMetadata"),
    ("SchemaName", .text payload.schemaName),
    ("DisplayName", label payload.displayName payload.languageCode),
    ("DisplayCollectionName", label (payload.displayName ++ "s") payload.languageCode),
    ("Description", label payload.displayName payload.languageCode),
    ("OwnershipType", .text "UserOwned"),
    ("IsActivity", .bool false),
    ("HasActivities", .bool false),
    ("HasNotes", .bool false),
    ("Attributes", .list (payload.attributes.map ofAttribute))]

/-- What happens to the many side when the one side changes. -/
def cascade : Value :=
  .record [
    ("Assign", .text "NoCascade"), ("Delete", .text "RemoveLink"),
    ("Merge", .text "NoCascade"), ("Reparent", .text "NoCascade"),
    ("Share", .text "NoCascade"), ("Unshare", .text "NoCascade")]

/-- The body of a relationship. -/
def ofRelationship (payload : RelationshipPayload) : Value :=
  .record [
    ("@odata.type", typeName "OneToManyRelationshipMetadata"),
    ("SchemaName", .text payload.schemaName),
    ("ReferencedEntity", .text payload.referencedEntity),
    ("ReferencedAttribute", .text payload.referencedAttribute),
    ("ReferencingEntity", .text payload.referencingEntity),
    ("CascadeConfiguration", cascade),
    ("Lookup", ofLookup payload.lookup)]

/-- The body of a payload. -/
def ofPayload : Payload → Value
  | .optionSet payload => ofOptionSet payload
  | .table payload => ofTable payload
  | .relationship payload => ofRelationship payload

end ErdDeploy.Body
