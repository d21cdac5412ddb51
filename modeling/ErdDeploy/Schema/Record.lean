import ErdDeploy.Data.Check
import ErdDeploy.Schema.Relationship

/-!
Fields, references and relationships as plain data.

A field comes with a kind and a set of facts that may contradict it; checking refuses such a
combination, since it could not be held by a `Field` at all.
-/

namespace ErdDeploy

open Check

/-- The words for the kinds of fields. -/
inductive FieldKindWord
  | primaryKey
  | enum
  | lookup
  | userReference
  | scalar
  deriving DecidableEq, Repr

namespace FieldKindWord

/-- The kind of a word. -/
def ofWord? (word : String) : Option FieldKindWord :=
  [("primary_key", primaryKey), ("enum", enum), ("lookup", lookup),
    ("user_reference", userReference), ("scalar", scalar)].lookup word

/-- A kind with its own facts, if the facts fit the kind. -/
def withFacts? (word : FieldKindWord) (enumName lookupTable : Option String) :
    Option FieldKind :=
  match word, enumName, lookupTable with
  | .enum, some name, none => some (.enum name)
  | .lookup, none, table => some (.lookup table)
  | .primaryKey, none, none => some .primaryKey
  | .userReference, none, none => some .userReference
  | .scalar, none, none => some .scalar
  | _, _, _ => none

end FieldKindWord

/-- The members of a field before the kind and its facts are compared. -/
structure FieldFacts where
  name : String
  typeToken : String
  kind : FieldKindWord
  isRequired : Bool
  columnType : Option ColumnType
  maxLength : Option Int
  enumName : Option String
  enumValues : List String
  lookupTable : Option String
  lookupField : Option String
  line : Int

namespace FieldFacts

/-- Check each member on its own. -/
def ofMembers (members : Members) : Checked FieldFacts :=
  FieldFacts.mk <$> required members "name" text
    <*> required members "type_token" text
    <*> required members "kind" (member FieldKindWord.ofWord?)
    <*> allowed members "is_required" false boolean
    <*> allowed members "attribute_type" none (nullable (member ColumnType.ofWord?))
    <*> allowed members "max_length" none (nullable integer)
    <*> allowed members "enum_name" none (nullable text)
    <*> allowed members "enum_values" [] (tuple text)
    <*> allowed members "lookup_table" none (nullable text)
    <*> allowed members "lookup_field" none (nullable text)
    <*> allowed members "line" 0 integer

/-- The field of some facts, if they fit its kind. -/
def toField (facts : FieldFacts) : Checked Field :=
  match facts.kind.withFacts? facts.enumName facts.lookupTable with
  | none => .reject .ruleBroken
  | some kind =>
    .valid ⟨facts.name, facts.typeToken, kind, facts.isRequired, facts.columnType,
      facts.maxLength, facts.enumValues, facts.lookupField, facts.line⟩

end FieldFacts

/-- A field from plain data. -/
def Field.ofValue : Value → Checked Field :=
  record fun members => (FieldFacts.ofMembers members).andThen FieldFacts.toField

/-- A reference from plain data. -/
def Reference.ofValue : Value → Checked Reference :=
  record fun members =>
    Reference.mk <$> required members "from_table" text
      <*> required members "from_field" text
      <*> required members "direction" (member Direction.ofGlyph?)
      <*> required members "to_table" text
      <*> required members "to_field" text
      <*> allowed members "line" 0 integer

/-- A relationship from plain data. -/
def Relationship.ofValue : Value → Checked Relationship :=
  record fun members =>
    Relationship.mk <$> allowed members "kind" .table (member RelationshipKind.ofWord?)
      <*> required members "schema_name" text
      <*> required members "referenced_entity" text
      <*> required members "referenced_attribute" text
      <*> required members "referencing_entity" text
      <*> required members "lookup_schema_name" text
      <*> required members "lookup_display_name" text
      <*> allowed members "is_required" false boolean

end ErdDeploy
