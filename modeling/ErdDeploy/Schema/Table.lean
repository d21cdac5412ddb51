import ErdDeploy.Log
import ErdDeploy.Schema.FieldLine
import ErdDeploy.Schema.Naming
import ErdDeploy.Source.Finding
import ErdDeploy.Text.Quoted

/-!
Tables: the fields of a table block, by name.

A field that is declared again keeps its place and takes the last declaration; each time a
warning names the declaration before. Lines without a name or a type declare nothing.
-/

namespace ErdDeploy

/-- A table with its fields in the order of their first declaration. -/
structure Table where
  name : String
  schemaName : String
  fields : OrderedMap Field
  isReserved : Bool
  line : Int
  deriving DecidableEq

/-- A table that declares no key, so that nothing can name its rows. -/
structure MissingKey where
  table : String
  deriving DecidableEq, Repr

/-- What is reported of a table without a key. -/
def MissingKey.message (e : MissingKey) : String :=
  s!"Table '{e.table}' declares no primary-key field; cannot derive its display-name attribute"

namespace Table

/-- The first key of the table, which also names its rows. -/
def displayField (t : Table) : Except MissingKey Field :=
  match t.fields.values.find? Field.isPrimaryKey with
  | some field => .ok field
  | none => .error ⟨t.name⟩

/-- The fields whose columns are created together with the table. -/
def attributeFields (t : Table) : List Field :=
  t.fields.values.filter fun field => !field.isPrimaryKey && !field.isDeferred

/-- The fields that some lines declare, in the order of the lines. -/
def fieldsOf (enums : OrderedMap Enumeration) :
    List SourceLine → Except Text.NumeralError (List Field)
  | [] => .ok []
  | line :: lines => do
    let field ← FieldLine.interpret enums line
    let fields ← fieldsOf enums lines
    pure (field.toList ++ fields)

/-- The fields by name. -/
def byName (fields : List Field) : OrderedMap Field :=
  .ofList (fields.map fun field => (field.name, field))

/-- The warning about a field that was declared before. -/
def fieldRedeclared (table : String) (earlier field : Field) : Diagnostic :=
  .warning field.line
    s!"Field '{field.name}' redeclared in table '{table}'; line {earlier.line} is overridden"

/-- The warnings about redeclared fields; `before` holds the earlier fields, the latest
first. -/
def redeclarations (table : String) (before : List Field) : List Field → List Diagnostic
  | [] => []
  | field :: fields =>
    let warning :=
      (before.find? fun earlier => earlier.name = field.name).map fun earlier =>
        fieldRedeclared table earlier field
    warning.toList ++ redeclarations table (field :: before) fields

/-- The table of a block, with the warnings about its fields. -/
def ofBlock (rules : NamingRules) (enums : OrderedMap Enumeration) (block : TableBlock) :
    Except Text.NumeralError (Table × List Diagnostic) :=
  (fieldsOf enums block.lines).map fun fields =>
    (⟨block.name, rules.tableName block.name, byName fields, rules.isReserved block.name,
        block.line⟩,
      redeclarations block.name [] fields)

/-- What is logged of a line that declares nothing. -/
def lineDropped (table : String) (line : SourceLine) : LogEntry :=
  let quoted := String.ofList (Text.quoted line.text)
  ⟨.debug, s!"Dropping field line {line.number} of '{table}': {quoted}"⟩

/-- What is logged of the lines of a block, up to a line that cannot be read, and whether all
could be. -/
def dropLog (enums : OrderedMap Enumeration) (table : String) :
    List SourceLine → List LogEntry × Bool
  | [] => ([], true)
  | line :: lines =>
    match FieldLine.interpret enums line with
    | .error _ => ([], false)
    | .ok field =>
      let (entries, complete) := dropLog enums table lines
      (if field.isNone then lineDropped table line :: entries else entries, complete)

end Table

end ErdDeploy
