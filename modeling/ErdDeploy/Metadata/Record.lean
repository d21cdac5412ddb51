import ErdDeploy.Data.Check
import ErdDeploy.Metadata.Payload

/-!
Payloads as plain data: written in full by `toValue`, and checked by `ofValue`.

A payload says by its `kind` which of the three it is, and an attribute which of the nine. Data
that names no known kind is refused as a whole; otherwise every member is checked on its own.
-/

namespace ErdDeploy

open Check

/-- The language of labels where none is given. -/
def defaultLanguageCode : Int := 1033

namespace AttributeHead

/-- The members of a head. -/
def members (head : AttributeHead) : List (String × Value) :=
  [("schema_name", .text head.schemaName), ("display_name", .text head.displayName),
    ("is_required", .bool head.isRequired), ("language_code", .int head.languageCode)]

/-- A head from the members of a record. -/
def ofMembers (members : Members) : Checked AttributeHead :=
  AttributeHead.mk <$> required members "schema_name" text
    <*> required members "display_name" text
    <*> allowed members "is_required" false boolean
    <*> allowed members "language_code" defaultLanguageCode integer

/-- The lookup of a relationship from plain data. -/
def ofValue : Value → Checked AttributeHead :=
  record fun members =>
    (fun head _ => head) <$> ofMembers members <*> literal members "kind" "lookup"

/-- The lookup of a relationship as plain data. -/
def toValue (head : AttributeHead) : Value :=
  .record (head.members ++ [("kind", .text "lookup")])

end AttributeHead

namespace AttributeKind

/-- The members of a kind. -/
def members : AttributeKind → List (String × Value)
  | .string maxLength isPrimaryName =>
    [("max_length", .int maxLength), ("is_primary_name", .bool isPrimaryName)]
  | .memo maxLength => [("max_length", .int maxLength)]
  | .integer => []
  | .decimal precision => [("precision", .int precision)]
  | .money precision => [("precision", .int precision)]
  | .boolean => []
  | .dateTime dateOnly => [("date_only", .bool dateOnly)]
  | .picklist optionSetId => [("option_set_id", .text optionSetId)]
  | .lookup => []

/-- How to check the members of the kind of a given word. -/
def ofWord? : String → Option (Members → Checked AttributeKind)
  | "string" => some fun members =>
    AttributeKind.string <$> allowed members "max_length" defaultTextLength Check.integer
      <*> allowed members "is_primary_name" false Check.boolean
  | "memo" => some fun members =>
    AttributeKind.memo <$> allowed members "max_length" memoLength Check.integer
  | "integer" => some fun _ => .valid .integer
  | "decimal" => some fun members =>
    AttributeKind.decimal <$> allowed members "precision" defaultPrecision Check.integer
  | "money" => some fun members =>
    AttributeKind.money <$> allowed members "precision" defaultPrecision Check.integer
  | "boolean" => some fun _ => .valid .boolean
  | "datetime" => some fun members =>
    AttributeKind.dateTime <$> allowed members "date_only" false Check.boolean
  | "picklist" => some fun members =>
    AttributeKind.picklist <$> required members "option_set_id" text
  | "lookup" => some fun _ => .valid .lookup
  | _ => none

end AttributeKind

/-- Check a record by the variant that its `kind` names. Places inside are told under the word
of the variant. -/
def ofVariant {α : Type} (ofWord? : String → Option (Members → Checked α)) :
    Value → Checked α
  | .record members =>
    match members.lookup "kind" with
    | none => .reject .variantMissing
    | some (.text word) =>
      match ofWord? word with
      | some check => (check members).under word
      | none => .reject .variantUnknown
    | some _ => .reject .variantUnknown
  | _ => .reject .notVariantRecord

namespace Attribute

/-- An attribute as plain data. -/
def toValue (a : Attribute) : Value :=
  .record (a.toAttributeHead.members ++ ("kind", .text a.kind.word) :: a.kind.members)

/-- How to check the attribute whose kind has a given word. -/
def ofWord? (word : String) : Option (Members → Checked Attribute) :=
  (AttributeKind.ofWord? word).map fun check members =>
    Attribute.mk <$> AttributeHead.ofMembers members <*> check members

/-- An attribute from plain data. -/
def ofValue : Value → Checked Attribute :=
  ofVariant ofWord?

end Attribute

/-- An option as plain data. -/
def OptionValue.toValue (option : OptionValue) : Value :=
  .record [("value", .int option.value), ("label", .text option.label)]

/-- An option from plain data. -/
def OptionValue.ofValue : Value → Checked OptionValue :=
  record fun members =>
    OptionValue.mk <$> required members "value" integer <*> required members "label" text

namespace Payload

/-- A payload as plain data. -/
def toValue : Payload → Value
  | .optionSet p =>
    .record [("kind", .text "option_set"), ("name", .text p.name),
      ("display_name", .text p.displayName),
      ("options", .list (p.options.map OptionValue.toValue)),
      ("language_code", .int p.languageCode)]
  | .table p =>
    .record [("kind", .text "table"), ("schema_name", .text p.schemaName),
      ("display_name", .text p.displayName),
      ("attributes", .list (p.attributes.map Attribute.toValue)),
      ("language_code", .int p.languageCode)]
  | .relationship p =>
    .record [("kind", .text "relationship"), ("schema_name", .text p.schemaName),
      ("referenced_entity", .text p.referencedEntity),
      ("referenced_attribute", .text p.referencedAttribute),
      ("referencing_entity", .text p.referencingEntity),
      ("lookup", p.lookup.toValue)]

/-- An option set from the members of a record. -/
def optionSetOf (members : Members) : Checked OptionSetPayload :=
  OptionSetPayload.mk <$> required members "name" text
    <*> required members "display_name" text
    <*> allowed members "options" [] (list OptionValue.ofValue)
    <*> allowed members "language_code" defaultLanguageCode integer

/-- A table from the members of a record. -/
def tableOf (members : Members) : Checked TablePayload :=
  TablePayload.mk <$> required members "schema_name" text
    <*> required members "display_name" text
    <*> allowed members "attributes" [] (list Attribute.ofValue)
    <*> allowed members "language_code" defaultLanguageCode integer

/-- A relationship from the members of a record. -/
def relationshipOf (members : Members) : Checked RelationshipPayload :=
  RelationshipPayload.mk <$> required members "schema_name" text
    <*> required members "referenced_entity" text
    <*> required members "referenced_attribute" text
    <*> required members "referencing_entity" text
    <*> required members "lookup" AttributeHead.ofValue

/-- How to check the payload whose kind has a given word. -/
def ofWord? : String → Option (Members → Checked Payload)
  | "option_set" => some fun members => Payload.optionSet <$> optionSetOf members
  | "table" => some fun members => Payload.table <$> tableOf members
  | "relationship" => some fun members => Payload.relationship <$> relationshipOf members
  | _ => none

/-- A payload from plain data. -/
def ofValue : Value → Checked Payload :=
  ofVariant ofWord?

end Payload

end ErdDeploy
