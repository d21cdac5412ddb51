import ErdDeploy.Schema.Lookup
import ErdDeploy.Schema.Relationship
import ErdDeploy.Source.Reading

/-!
The schema model: everything that a source declares, ready for deployment.

A model is read in stages, each a function of the stage before: the statements of the text, the
enums, the tables, the tables with their lookups, the relationships. Diagnostics are gathered in
the order of the stages. A strict reading refuses a source with errors; a lenient one keeps the
diagnostics in the model.
-/

namespace ErdDeploy

/-- A schema as a source declares it. -/
structure Model where
  nameSpace : String
  enums : OrderedMap Enumeration
  tables : OrderedMap Table
  references : List Reference
  relationships : List Relationship
  userRelationships : List Relationship
  diagnostics : List Diagnostic
  deriving DecidableEq

/-- Why a source is refused. -/
inductive SourceError
  /-- A strict reading found errors. -/
  | syntaxErrors (errors : List Diagnostic)
  /-- The length of a type cannot be read. -/
  | unreadableLength (cause : Text.NumeralError)
  deriving DecidableEq, Repr

/-- What is reported of a source that is refused. -/
def SourceError.message : SourceError → String
  | .syntaxErrors errors =>
    "ERD source has syntax errors:\n  " ++
      String.intercalate "\n  " (errors.map Diagnostic.format)
  | .unreadableLength cause => cause.message

namespace Model

/-- The names of the enums. -/
def enumNames (m : Model) : List String :=
  m.enums.values.map Enumeration.name

/-- The tables that are to be created. -/
def creatableTables (m : Model) : List Table :=
  m.tables.values.filter fun table => !table.isReserved

/-- The errors among the diagnostics. -/
def errors (m : Model) : List Diagnostic :=
  m.diagnostics.filter Diagnostic.isError

/-! ## Stages -/

/-- The enums of the blocks by name: the last block of a name gives the values. -/
def enumsOf (blocks : List EnumBlock) : OrderedMap Enumeration :=
  .ofList (blocks.map fun block => (block.name, ⟨block.name, block.values⟩))

/-- The warning about an enum that was declared before. -/
def enumRedeclared (block : EnumBlock) : Diagnostic :=
  .warning block.line s!"Enum '{block.name}' redeclared; earlier definition is overridden"

/-- The warnings about redeclared enums; `before` holds the names declared so far. -/
def enumWarnings (before : List String) : List EnumBlock → List Diagnostic
  | [] => []
  | block :: blocks =>
    (if before.contains block.name then [enumRedeclared block] else []) ++
      enumWarnings (block.name :: before) blocks

/-- The tables of the blocks, each with the warnings about its fields. -/
def interpretTables (rules : NamingRules) (enums : OrderedMap Enumeration) :
    List TableBlock → Except Text.NumeralError (List (Table × List Diagnostic))
  | [] => .ok []
  | block :: blocks => do
    let table ← Table.ofBlock rules enums block
    let tables ← interpretTables rules enums blocks
    pure (table :: tables)

/-- The tables by name: the last block of a name gives the table. -/
def tablesOf (tables : List Table) : OrderedMap Table :=
  .ofList (tables.map fun table => (table.name, table))

/-- The warning about a table that was declared before. -/
def tableRedeclared (table : Table) : Diagnostic :=
  .warning table.line s!"Table '{table.name}' redeclared; earlier definition is overridden"

/-- The warnings about tables, each after those about its fields; `before` holds the names
declared so far. -/
def tableWarnings (before : List String) : List (Table × List Diagnostic) → List Diagnostic
  | [] => []
  | (table, warnings) :: tables =>
    warnings ++ (if before.contains table.name then [tableRedeclared table] else []) ++
      tableWarnings (table.name :: before) tables

/-- The model of interpreted tables. -/
def ofTables (rules : NamingRules) (extract : Extract)
    (interpreted : List (Table × List Diagnostic)) : Model :=
  let declared := tablesOf (interpreted.map Prod.fst)
  let (tables, lookupWarnings) := Lookup.inject declared extract.references
  { nameSpace := rules.nameSpace
    enums := enumsOf extract.enums
    tables := tables
    references := extract.references
    relationships := Relationship.resolve rules tables extract.references
    userRelationships := Relationship.resolveUsers rules tables
    diagnostics :=
      extract.diagnostics ++ enumWarnings [] extract.enums ++ tableWarnings [] interpreted ++
        lookupWarnings ++ Relationship.resolveWarnings rules tables extract.references }

/-- The model of the statements of a source. -/
def ofExtract (rules : NamingRules) (extract : Extract) : Except Text.NumeralError Model :=
  (interpretTables rules (enumsOf extract.enums) extract.tables).map (ofTables rules extract)

/-- Refuse a model with errors, if asked to be strict. -/
def accept (strict : Bool) (m : Model) : Except SourceError Model :=
  if strict && !m.errors.isEmpty then .error (.syntaxErrors m.errors) else .ok m

/-- Read a text as a model. -/
def ofText (rules : NamingRules) (strict : Bool) (text : String) : Except SourceError Model :=
  match ofExtract rules (Extract.ofText text) with
  | .error cause => .error (.unreadableLength cause)
  | .ok m => accept strict m

/-! ## What reading logs -/

/-- What is logged of the lines that declare nothing, up to a line that cannot be read. -/
def dropLog (enums : OrderedMap Enumeration) : List TableBlock → List LogEntry
  | [] => []
  | block :: blocks =>
    let (entries, complete) := Table.dropLog enums block.name block.lines
    entries ++ if complete then dropLog enums blocks else []

/-- What is logged of a model that was read. -/
def summaryLog (m : Model) : List LogEntry :=
  m.diagnostics.map (fun d => ⟨.debug, "ERD " ++ d.format⟩) ++
    [⟨.info,
      s!"Parsed {m.enums.size} enums, {m.tables.size} tables, " ++
        s!"{m.relationships.length} relationships, " ++
        s!"{m.userRelationships.length} user references"⟩]

/-- What is logged while a text is read. -/
def readingLog (rules : NamingRules) (strict : Bool) (text : String) : List LogEntry :=
  let extract := Extract.ofText text
  dropLog (enumsOf extract.enums) extract.tables ++
    match ofText rules strict text with
    | .ok m => m.summaryLog
    | .error _ => []

end Model

end ErdDeploy
