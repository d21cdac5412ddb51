import ErdDeploy.Proofs.Data.OrderedMap
import ErdDeploy.Proofs.Source.Unnumbered
import ErdDeploy.Schema.Model

/-!
The schema without the numbers of lines.

The numbers of lines take no part in what a schema comes to. Reading a field line, putting
a lookup, resolving references: each commutes with dropping the numbers from what it is
given and from what it makes (`inject_unnumbered`, `resolve_unnumbered`,
`resolveUsers_unnumbered`). Besides, a field line is trimmed before it is read, so the
blanks around it may be dropped along with its number (`interpret_bare`).
-/

namespace ErdDeploy

def Field.unnumbered (field : Field) : Field :=
  { field with line := 0 }

def Table.unnumbered (table : Table) : Table :=
  { table with fields := table.fields.mapValues Field.unnumbered, line := 0 }

/-- The model without the numbers of lines, and without diagnostics. -/
def Model.unnumbered (m : Model) : Model :=
  { m with
    tables := m.tables.mapValues Table.unnumbered
    references := m.references.map Reference.unnumbered
    diagnostics := [] }

/-- The diagnostic without the place that it is about. -/
def Diagnostic.unplaced (d : Diagnostic) : Diagnostic :=
  { d with line := 0, column := 0 }

/-- The trimmed text, without the number of its line. -/
def SourceLine.bare (line : SourceLine) : SourceLine :=
  ⟨0, Text.trim line.text⟩

theorem Field.name_of_unnumbered {field field' : Field}
    (same : field.unnumbered = field'.unnumbered) : field.name = field'.name := by
  have names : field.unnumbered.name = field'.unnumbered.name := by rw [same]
  exact names

/-- The block with trimmed lines, without the numbers of lines. -/
def TableBlock.bare (block : TableBlock) : TableBlock :=
  ⟨block.name, block.lines.map SourceLine.bare, 0⟩

/-! ## Field lines -/

namespace FieldLine

theorem valueField_unnumbered (name typeToken : String) (kind : FieldKind) (isRequired : Bool)
    (line : Int) : valueField name typeToken kind isRequired 0 =
      (valueField name typeToken kind isRequired line).map Field.unnumbered := by
  unfold valueField
  cases TypeToken.read typeToken.toList <;> rfl

theorem toField_unnumbered (parts : FieldLine) (enums : OrderedMap Enumeration) (line : Int) :
    parts.toField enums 0 = (parts.toField enums line).map Field.unnumbered := by
  simp only [toField]
  split
  · exact valueField_unnumbered _ _ _ _ _
  · split
    · rfl
    · split
      · rfl
      · split
        · rfl
        · exact valueField_unnumbered _ _ _ _ _

theorem split?_trim (text : List Char) : split? (Text.trim text) = split? text := by
  unfold split?
  rw [Text.trim_trim]

theorem interpret_bare (enums : OrderedMap Enumeration) (line : SourceLine) :
    interpret enums line.bare = (interpret enums line).map (Option.map Field.unnumbered) := by
  unfold interpret SourceLine.bare
  simp only
  rw [split?_trim]
  split
  · rfl
  · next parts _ =>
    rw [toField_unnumbered parts enums line.number]
    cases parts.toField enums line.number <;> rfl

end FieldLine

namespace Table

theorem fieldsOf_bare (enums : OrderedMap Enumeration) (lines : List SourceLine) :
    fieldsOf enums (lines.map SourceLine.bare) =
      (fieldsOf enums lines).map (List.map Field.unnumbered) := by
  induction lines with
  | nil => rfl
  | cons line lines ih =>
      rw [List.map_cons, fieldsOf, fieldsOf, ih, FieldLine.interpret_bare]
      cases FieldLine.interpret enums line with
      | error cause => rfl
      | ok field =>
          cases fieldsOf enums lines with
          | error cause => rfl
          | ok fields => cases field <;> rfl

theorem byName_unnumbered (fields : List Field) :
    byName (fields.map Field.unnumbered) = (byName fields).mapValues Field.unnumbered := by
  rw [byName, byName, OrderedMap.mapValues_ofList, List.map_map, List.map_map]
  rfl

end Table

/-! ## Lookups -/

namespace Lookup

variable (r : Reference)

theorem putNamed_unnumbered (fields : OrderedMap Field) :
    putNamed r.unnumbered (fields.mapValues Field.unnumbered) =
      (putNamed r fields).mapValues Field.unnumbered := by
  have name : r.unnumbered.lookupName = r.lookupName := rfl
  rw [putNamed, putNamed, name, OrderedMap.get?_mapValues]
  cases fields.get? r.lookupName with
  | none =>
      simp only [Option.map_none]
      rw [OrderedMap.mapValues_insert]
      rfl
  | some field =>
      have same : (field.unnumbered.isPrimaryKey || field.unnumbered.lookupTable.isSome) =
          (field.isPrimaryKey || field.lookupTable.isSome) := rfl
      simp only [Option.map_some, same]
      split
      · rfl
      · rw [OrderedMap.mapValues_insert]
        rfl

theorem putColumn_unnumbered (fields : OrderedMap Field) :
    putColumn r.unnumbered (fields.mapValues Field.unnumbered) =
      (putColumn r fields).mapValues Field.unnumbered := by
  have name : r.unnumbered.toField = r.toField := rfl
  rw [putColumn, putColumn, name, OrderedMap.get?_mapValues]
  cases fields.get? r.toField with
  | none => rfl
  | some field =>
      have same : (field.unnumbered.name = r.unnumbered.lookupName || field.unnumbered.isLookup ||
            field.unnumbered.isPrimaryKey) =
          (field.name = r.lookupName || field.isLookup || field.isPrimaryKey) := rfl
      simp only [Option.map_some, same]
      split
      · rfl
      · rw [OrderedMap.mapValues_insert]
        rfl

theorem keyNames_unnumbered (fields : OrderedMap Field) :
    keyNames r.unnumbered (fields.mapValues Field.unnumbered) = keyNames r fields := by
  simp only [keyNames, OrderedMap.get?_mapValues, Option.map_map]
  rfl

theorem injectOne_unnumbered (tables : OrderedMap Table) :
    (injectOne r.unnumbered (tables.mapValues Table.unnumbered)).1 =
        (injectOne r tables).1.mapValues Table.unnumbered ∧
      (injectOne r.unnumbered (tables.mapValues Table.unnumbered)).2.map Diagnostic.unplaced =
        (injectOne r tables).2.map Diagnostic.unplaced := by
  have manyToOne : r.unnumbered.isManyToOne = r.isManyToOne := rfl
  have missing : missingTables r.unnumbered (tables.mapValues Table.unnumbered) =
      missingTables r tables := by
    simp only [missingTables, OrderedMap.contains_mapValues]
    rfl
  have fromTable : (tables.mapValues Table.unnumbered).get? r.unnumbered.fromTable =
      (tables.get? r.fromTable).map Table.unnumbered := OrderedMap.get?_mapValues _ _ _
  have toTable : (tables.mapValues Table.unnumbered).get? r.unnumbered.toTable =
      (tables.get? r.toTable).map Table.unnumbered := OrderedMap.get?_mapValues _ _ _
  simp only [injectOne, manyToOne, fromTable, toTable, missing]
  split
  · exact ⟨rfl, rfl⟩
  · cases tables.get? r.fromTable with
    | none => exact ⟨rfl, rfl⟩
    | some source =>
        cases tables.get? r.toTable with
        | none => exact ⟨rfl, rfl⟩
        | some target =>
            have fields : putColumn r.unnumbered
                  (putNamed r.unnumbered (target.fields.mapValues Field.unnumbered)) =
                (putColumn r (putNamed r target.fields)).mapValues Field.unnumbered := by
              rw [putNamed_unnumbered, putColumn_unnumbered]
            have keys := keyNames_unnumbered r target.fields
            simp only [Option.map_some, Table.unnumbered, fields, keys, OrderedMap.mapValues_insert,
              List.map_map]
            exact ⟨rfl, rfl⟩

theorem inject_unnumbered (tables : OrderedMap Table) (references : List Reference) :
    (inject (tables.mapValues Table.unnumbered) (references.map Reference.unnumbered)).1 =
        (inject tables references).1.mapValues Table.unnumbered ∧
      (inject (tables.mapValues Table.unnumbered)
          (references.map Reference.unnumbered)).2.map Diagnostic.unplaced =
        (inject tables references).2.map Diagnostic.unplaced := by
  induction references generalizing tables with
  | nil => exact ⟨rfl, rfl⟩
  | cons r rest ih =>
      obtain ⟨once, warnings⟩ := injectOne_unnumbered r tables
      obtain ⟨done, more⟩ := ih (injectOne r tables).1
      simp only [List.map_cons, inject, once, List.map_append, warnings, more]
      exact ⟨done, trivial⟩

end Lookup

/-! ## Relationships -/

namespace Relationship

variable (rules : NamingRules) (tables : OrderedMap Table)

theorem isEffective_unnumbered (r : Reference) :
    isEffective (tables.mapValues Table.unnumbered) r.unnumbered = isEffective tables r := by
  simp only [isEffective, OrderedMap.contains_mapValues]
  rfl

theorem filter_isEffective_unnumbered (references : List Reference) :
    (references.map Reference.unnumbered).filter
        (isEffective (tables.mapValues Table.unnumbered)) =
      (references.filter (isEffective tables)).map Reference.unnumbered := by
  rw [List.filter_map]
  congr 2
  funext r
  exact isEffective_unnumbered tables r

theorem ofReference_unnumbered (r : Reference) :
    ofReference rules (tables.mapValues Table.unnumbered) r.unnumbered =
      ofReference rules tables r := by
  have required : lookupRequired (tables.mapValues Table.unnumbered) r.unnumbered =
      lookupRequired tables r := by
    have toTable : (tables.mapValues Table.unnumbered).get? r.unnumbered.toTable =
        (tables.get? r.toTable).map Table.unnumbered := OrderedMap.get?_mapValues _ _ _
    rw [lookupRequired, lookupRequired, toTable]
    cases tables.get? r.toTable with
    | none => rfl
    | some table =>
        have field : (table.unnumbered).fields.get? r.unnumbered.lookupName =
            (table.fields.get? r.lookupName).map Field.unnumbered := OrderedMap.get?_mapValues _ _ _
        simp only [Option.map_some, Option.bind_some, field]
        cases table.fields.get? r.lookupName <;> rfl
  rw [ofReference, ofReference, required]
  rfl

theorem resolve_unnumbered (references : List Reference) :
    resolve rules (tables.mapValues Table.unnumbered) (references.map Reference.unnumbered) =
      resolve rules tables references := by
  rw [resolve, resolve, filter_isEffective_unnumbered, List.map_map]
  exact List.map_congr_left fun r _ => ofReference_unnumbered rules tables r

theorem resolveUsers_unnumbered :
    resolveUsers rules (tables.mapValues Table.unnumbered) = resolveUsers rules tables := by
  rw [resolveUsers, resolveUsers, OrderedMap.values_mapValues, List.flatMap_map]
  refine List.flatMap_congr fun table _ => ?_
  simp only [Table.unnumbered, OrderedMap.values_mapValues, List.filter_map, List.map_map]
  rfl

end Relationship

end ErdDeploy
