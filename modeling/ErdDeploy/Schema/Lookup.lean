import ErdDeploy.Schema.Table

/-!
Lookups: each many-to-one reference puts a lookup field into the table of its many side.

The lookup is named after the table of the one side. A field of that name is taken over, and so
is the field that the reference itself names; both keep whether they are required. A key is
never taken over, and a lookup that points somewhere stays as it is.
-/

namespace ErdDeploy.Lookup

/-- The type token of a lookup that no line declares. -/
def typeToken : String := "Lookup"

/-- A field turned into the lookup of a reference. -/
def takeOver (field : Field) (r : Reference) : Field :=
  { Field.plain field.name field.typeToken (.lookup (some r.fromTable)) field.isRequired
      field.line with lookupField := some r.fromField }

/-- The lookup of a reference that takes over no field. -/
def fresh (r : Reference) : Field :=
  { Field.plain r.lookupName typeToken (.lookup (some r.fromTable)) false r.line with
    lookupField := some r.fromField }

/-- The field of a reference that is named after the one side. -/
def putNamed (r : Reference) (fields : OrderedMap Field) : OrderedMap Field :=
  match fields.get? r.lookupName with
  | none => fields.insert r.lookupName (fresh r)
  | some field =>
    if field.isPrimaryKey || field.lookupTable.isSome then fields
    else fields.insert r.lookupName (takeOver field r)

/-- The field of a reference that the reference names itself. -/
def putColumn (r : Reference) (fields : OrderedMap Field) : OrderedMap Field :=
  match fields.get? r.toField with
  | none => fields
  | some field =>
    if field.name = r.lookupName || field.isLookup || field.isPrimaryKey then fields
    else fields.insert r.toField (takeOver field r)

/-- The names among the two fields of a reference that are keys, in order and each once. -/
def keyNames (r : Reference) (fields : OrderedMap Field) : List String :=
  let isKey (name : String) : Bool := ((fields.get? name).map Field.isPrimaryKey).getD false
  let named := if isKey r.lookupName then [r.lookupName] else []
  let column := if isKey r.toField && r.toField != r.lookupName then [r.toField] else []
  if r.toField < r.lookupName then column ++ named else named ++ column

/-- The warning about a key that a reference would have taken over. -/
def keyKept (r : Reference) (key : String) : Diagnostic :=
  .warning r.line s!"'{r.toTable}.{key}' is the primary key; it is not turned into a lookup"

/-- The tables of a reference that are not there, the one side first. -/
def missingTables (r : Reference) (tables : OrderedMap Table) : List String :=
  [r.fromTable, r.toTable].filter fun name => !tables.contains name

/-- The warning about a reference to tables that are not there. -/
def unknownTables (r : Reference) (names : List String) : Diagnostic :=
  .warning r.line
    ("Relationship references unknown table(s): " ++ String.intercalate ", " names)

/-- Inject the lookup of one reference. -/
def injectOne (r : Reference) (tables : OrderedMap Table) :
    OrderedMap Table × List Diagnostic :=
  if !r.isManyToOne then (tables, [])
  else
    match tables.get? r.fromTable, tables.get? r.toTable with
    | some _, some table =>
      (tables.insert r.toTable { table with fields := putColumn r (putNamed r table.fields) },
        (keyNames r table.fields).map (keyKept r))
    | _, _ => (tables, [unknownTables r (missingTables r tables)])

/-- Inject the lookups of all references in turn. -/
def inject (tables : OrderedMap Table) : List Reference → OrderedMap Table × List Diagnostic
  | [] => (tables, [])
  | r :: rest =>
    let (once, warnings) := injectOne r tables
    let (done, more) := inject once rest
    (done, warnings ++ more)

end ErdDeploy.Lookup
