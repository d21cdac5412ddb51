import ErdDeploy.Schema.Table

/-!
Relationships, with the names under which the remote knows their parts.

A many-to-one reference between known tables resolves to a relationship between them, and a
field that refers to a user to a relationship with the built-in table of users.
-/

namespace ErdDeploy

/-- What the referenced side of a relationship is. -/
inductive RelationshipKind
  | table
  | systemUser
  deriving DecidableEq, Repr

namespace RelationshipKind

/-- The word for a kind. -/
def word : RelationshipKind → String
  | .table => "table"
  | .systemUser => "system_user"

/-- The kind of a word. -/
def ofWord? (word : String) : Option RelationshipKind :=
  [RelationshipKind.table, .systemUser].find? fun kind => kind.word = word

end RelationshipKind

/-- A relationship by its remote names. -/
structure Relationship where
  kind : RelationshipKind
  schemaName : String
  referencedEntity : String
  referencedAttribute : String
  referencingEntity : String
  lookupSchemaName : String
  lookupDisplayName : String
  isRequired : Bool
  deriving DecidableEq, Repr

namespace Relationship

/-- The remote name of the table of users. -/
def systemUserEntity : String := "systemuser"

/-- The key of the table of users. -/
def systemUserKey : String := "systemuserid"

/-- Whether a reference resolves: it has an effect, and both its tables are there. -/
def isEffective (tables : OrderedMap Table) (r : Reference) : Bool :=
  r.isManyToOne && tables.contains r.fromTable && tables.contains r.toTable

/-- Whether the lookup of a reference is required. -/
def lookupRequired (tables : OrderedMap Table) (r : Reference) : Bool :=
  match (tables.get? r.toTable).bind fun table => table.fields.get? r.lookupName with
  | some field => field.isLookup && field.isRequired
  | none => false

/-- The relationship of an effective reference. -/
def ofReference (rules : NamingRules) (tables : OrderedMap Table) (r : Reference) :
    Relationship :=
  let schemaName := rules.relationshipName r.fromTable r.toTable
  { kind := .table
    schemaName := schemaName
    referencedEntity := rules.tableName r.fromTable
    referencedAttribute := rules.keyName r.fromTable
    referencingEntity := rules.tableName r.toTable
    lookupSchemaName := rules.columnName r.toField ++ schemaName
    lookupDisplayName := r.toField
    isRequired := lookupRequired tables r }

/-- The relationships of the effective references, in order. -/
def resolve (rules : NamingRules) (tables : OrderedMap Table) (references : List Reference) :
    List Relationship :=
  (references.filter (isEffective tables)).map (ofReference rules tables)

/-- The warning about a relationship whose name an earlier one has. -/
def nameTaken (name : String) (firstLine : Int) (r : Reference) : Diagnostic :=
  .warning r.line
    (s!"Relationship name '{name}' already used on line {firstLine}; " ++
      "this relationship cannot be created")

/-- The warnings about repeated names; `before` holds the names that were used, with the line
of their first use. -/
def repeatedNames (rules : NamingRules) (before : List (String × Int)) :
    List Reference → List Diagnostic
  | [] => []
  | r :: rest =>
    let name := rules.relationshipName r.fromTable r.toTable
    match before.lookup name with
    | some firstLine => nameTaken name firstLine r :: repeatedNames rules before rest
    | none => repeatedNames rules ((name, r.line) :: before) rest

/-- The warnings that come with resolving references. -/
def resolveWarnings (rules : NamingRules) (tables : OrderedMap Table)
    (references : List Reference) : List Diagnostic :=
  repeatedNames rules [] (references.filter (isEffective tables))

/-- The relationship of a field that refers to a user. -/
def ofUserReference (rules : NamingRules) (table : Table) (field : Field) : Relationship :=
  { kind := .systemUser
    schemaName := rules.userRelationshipName table.name field.name
    referencedEntity := systemUserEntity
    referencedAttribute := systemUserKey
    referencingEntity := table.schemaName
    lookupSchemaName := rules.columnName field.name
    lookupDisplayName := field.name
    isRequired := field.isRequired }

/-- The relationships of all fields that refer to a user, table by table. -/
def resolveUsers (rules : NamingRules) (tables : OrderedMap Table) : List Relationship :=
  tables.values.flatMap fun table =>
    (table.fields.values.filter Field.isUserReference).map (ofUserReference rules table)

end Relationship

end ErdDeploy
