import ErdDeploy.Proofs.Data.LastEntries
import ErdDeploy.Proofs.Schema.Origin

/-!
What the blocks of a source declare, one by one.

A line yields a field or nothing, told by its text and the enums of the whole source. So the fields
that a block declares are told by its lines (`TableBlock.fields`), and the tables of a source that
is read by its blocks, each with the warnings about its fields (`Model.interpretTables_eq`).
-/

namespace ErdDeploy

/-! ## What lines yield -/

section

variable {enums : OrderedMap Enumeration} {line : SourceLine} {field : Field}

/-- The field that a line yields, if any. -/
def SourceLine.field? (enums : OrderedMap Enumeration) (line : SourceLine) : Option Field :=
  match FieldLine.interpret enums line with
  | .ok field => field
  | .error _ => none

/-- A line yields a field of some name. -/
def SourceLine.Yields (enums : OrderedMap Enumeration) (name : String) (line : SourceLine) :
    Prop :=
  ∃ field, FieldLine.interpret enums line = .ok (some field) ∧ field.name = name

theorem SourceLine.field?_eq_some_iff :
    line.field? enums = some field ↔ FieldLine.interpret enums line = .ok (some field) := by
  unfold field?
  cases FieldLine.interpret enums line with
  | error cause => simp
  | ok field' => simp

/-- The last field of a name is what the last line that yields the name declares. -/
theorem lastWith_field?_iff {lines : List SourceLine} {name : String} :
    LastWith (fun field => field.name = name) (lines.filterMap (·.field? enums)) field ↔
      ∃ line, LastWith (SourceLine.Yields enums name) lines line ∧
        FieldLine.interpret enums line = .ok (some field) := by
  rw [lastWith_filterMap_iff]
  simp only [SourceLine.field?_eq_some_iff]
  rfl

end

/-! ## What blocks declare -/

namespace TableBlock

/-- The fields that the lines of a block yield, those that are declared again included. -/
def fields (enums : OrderedMap Enumeration) (block : TableBlock) : List Field :=
  block.lines.filterMap (·.field? enums)

/-- The names of the fields that the lines of a block yield. -/
def fieldNames (enums : OrderedMap Enumeration) (block : TableBlock) : List String :=
  (block.fields enums).map Field.name

end TableBlock

theorem Model.names_enumsOf (blocks : List EnumBlock) :
    (enumsOf blocks).names = (blocks.map EnumBlock.name).eraseDups := by
  rw [enumsOf, OrderedMap.names_ofList, List.map_map]
  rfl

/-- The table of a block, by the fields that its lines yield. -/
def Table.read (rules : NamingRules) (enums : OrderedMap Enumeration) (block : TableBlock) :
    Table :=
  ⟨block.name, rules.tableName block.name, byName (block.fields enums),
    rules.isReserved block.name, block.line⟩

section

variable {rules : NamingRules} {enums : OrderedMap Enumeration}

theorem Table.fieldsOf_eq {lines : List SourceLine} {fields : List Field}
    (made : fieldsOf enums lines = .ok fields) :
    fields = lines.filterMap (·.field? enums) := by
  induction lines generalizing fields with
  | nil =>
      cases made
      rfl
  | cons line lines ih =>
      rw [fieldsOf] at made
      cases first : FieldLine.interpret enums line with
      | error cause =>
          rw [first] at made
          cases made
      | ok found =>
          cases rest : fieldsOf enums lines with
          | error cause =>
              rw [first, rest] at made
              cases made
          | ok others =>
              rw [first, rest] at made
              cases made
              have here : line.field? enums = found := by
                rw [SourceLine.field?, first]
              rw [List.filterMap_cons, here, ih rest]
              cases found <;> rfl

theorem Table.ofBlock_eq {block : TableBlock} {entry : Table × List Diagnostic}
    (made : ofBlock rules enums block = .ok entry) :
    entry = (read rules enums block, redeclarations block.name [] (block.fields enums)) := by
  unfold ofBlock at made
  cases found : fieldsOf enums block.lines with
  | error cause =>
      rw [found] at made
      cases made
  | ok fields =>
      rw [found] at made
      cases made
      rw [fieldsOf_eq found]
      rfl

/-- The tables of a source that is read are those of its blocks, one by one. -/
theorem Model.interpretTables_eq {blocks : List TableBlock}
    {interpreted : List (Table × List Diagnostic)}
    (made : interpretTables rules enums blocks = .ok interpreted) :
    interpreted = blocks.map fun block =>
      (.read rules enums block, Table.redeclarations block.name [] (block.fields enums)) := by
  induction blocks generalizing interpreted with
  | nil =>
      cases made
      rfl
  | cons block blocks ih =>
      rw [interpretTables] at made
      cases first : Table.ofBlock rules enums block with
      | error cause =>
          rw [first] at made
          cases made
      | ok table =>
          cases rest : interpretTables rules enums blocks with
          | error cause =>
              rw [first, rest] at made
              cases made
          | ok others =>
              rw [first, rest] at made
              cases made
              rw [List.map_cons, ← ih rest, ← Table.ofBlock_eq first]

end

end ErdDeploy
