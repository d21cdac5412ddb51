import ErdDeploy.Proofs.Data.Results
import ErdDeploy.Proofs.Schema.Injection
import ErdDeploy.Schema.Model

/-!
Where the parts of a model come from.

`Model.declaredTables` are the tables of a text before lookups are injected. A model
that is read from a text has them with the lookups of its references, and the
relationships that the references and the user fields resolve to (`Model.Origin`).
Each declared table carries the name that the naming rules give it, stores its fields
under their own names, and chooses among the enums of the model only
(`Table.Declared`). Every enum of such a model is kept under its own name
(`Model.enum_name_of_ofText`).
-/

namespace ErdDeploy

/-! ## Declared fields -/

namespace FieldLine

/-- What the parts of a line declare: a value, a choice among the values of an enum, or one of the
two references. -/
inductive Makes (enums : OrderedMap Enumeration) (parts : FieldLine) (line : Int) : Field → Prop
  | value {name typeToken : String} {kind : FieldKind} {isRequired : Bool} {type : ColumnType}
    {length : Option Int} : kind = .primaryKey ∨ kind = .scalar →
    TypeToken.read typeToken.toList = .ok (type, length) →
    Makes enums parts line
      ⟨name, typeToken, kind, isRequired, some type, length, [], none, line⟩
  | choice {name typeToken : String} {isRequired : Bool} {enum : Enumeration} :
    enums.get? typeToken = some enum →
    Makes enums parts line
      ⟨name, typeToken, .enum enum.name, isRequired, none, none, enum.values, none, line⟩
  | lookup {name typeToken : String} {isRequired : Bool} :
    Makes enums parts line
      ⟨name, typeToken, .lookup none, isRequired, none, none, [], none, line⟩
  | userReference {name typeToken : String} {isRequired : Bool} :
    Makes enums parts line
      ⟨name, typeToken, .userReference, isRequired, none, none, [], none, line⟩

variable {enums : OrderedMap Enumeration}

theorem makes_of_valueField {parts : FieldLine} {name typeToken : String} {kind : FieldKind}
    {isRequired : Bool} {line : Int} {field : Field} (holds : kind = .primaryKey ∨ kind = .scalar)
    (made : valueField name typeToken kind isRequired line = .ok field) :
    Makes enums parts line field := by
  unfold valueField at made
  cases read : TypeToken.read typeToken.toList with
  | error cause =>
      rw [read] at made
      cases made
  | ok shape =>
      rw [read] at made
      cases made
      exact .value holds read

theorem makes_of_toField {parts : FieldLine} {line : Int} {field : Field}
    (made : parts.toField enums line = .ok field) : Makes enums parts line field := by
  unfold toField at made
  simp only at made
  split at made
  · exact makes_of_valueField (Or.inl rfl) made
  · split at made
    · next enum found =>
      cases made
      exact .choice found
    · split at made
      · cases made
        exact .lookup
      · split at made
        · cases made
          exact .userReference
        · exact makes_of_valueField (Or.inr rfl) made

theorem makes_of_interpret {line : SourceLine} {field : Field}
    (made : interpret enums line = .ok (some field)) :
    ∃ parts, split? line.text = some parts ∧ Makes enums parts line.number field := by
  unfold interpret at made
  split at made
  · cases made
  · next parts found =>
    cases read : parts.toField enums line.number with
    | error cause =>
        rw [read] at made
        cases made
    | ok field' =>
        rw [read] at made
        cases made
        exact ⟨parts, found, makes_of_toField read⟩

/-- A declared field chooses among a declared enum, if among any. -/
theorem enum_of_interpret {line : SourceLine} {field : Field} {choice : String}
    (made : interpret enums line = .ok (some field)) (chosen : field.enumName = some choice) :
    choice ∈ enums.values.map Enumeration.name := by
  obtain ⟨parts, -, makes⟩ := makes_of_interpret made
  cases makes with
  | value holds =>
      rcases holds with rfl | rfl
      · cases chosen
      · cases chosen
  | choice found =>
      cases chosen
      exact List.mem_map_of_mem (OrderedMap.mem_values_iff.mpr ⟨_, found⟩)
  | lookup => cases chosen
  | userReference => cases chosen

/-- A field stands on the line that declares it. -/
theorem line_of_interpret {line : SourceLine} {field : Field}
    (made : interpret enums line = .ok (some field)) : field.line = line.number := by
  obtain ⟨parts, -, makes⟩ := makes_of_interpret made
  cases makes <;> rfl

end FieldLine

/-! ## Declared tables -/

/-- A table as a block declares it. -/
structure Table.Declared (rules : NamingRules) (enums : OrderedMap Enumeration) (t : Table) :
    Prop where
  schemaName : t.schemaName = rules.tableName t.name
  isReserved : t.isReserved = rules.isReserved t.name
  ownNames : Lookup.OwnNames t.fields
  enums : ∀ name field, t.fields.get? name = some field →
    ∀ choice, field.enumName = some choice → choice ∈ enums.values.map Enumeration.name

namespace Table

variable {rules : NamingRules} {enums : OrderedMap Enumeration}

/-- Every field of some lines is what one of the lines declares. -/
theorem exists_line_of_fieldsOf {lines : List SourceLine} {fields : List Field}
    (made : fieldsOf enums lines = .ok fields) {field : Field} (member : field ∈ fields) :
    ∃ line ∈ lines, FieldLine.interpret enums line = .ok (some field) := by
  induction lines generalizing fields with
  | nil =>
      cases made
      cases member
  | cons line lines ih =>
      rw [fieldsOf] at made
      cases first : FieldLine.interpret enums line with
      | error cause =>
          rw [first] at made
          cases made
      | ok found =>
          cases rest : fieldsOf enums lines with
          | error cause =>
              rw [first, rest] at made
              cases made
          | ok others =>
              rw [first, rest] at made
              cases made
              rcases List.mem_append.mp member with here | later
              · rw [Option.mem_toList] at here
                refine ⟨line, List.mem_cons_self, ?_⟩
                rw [first, here]
              · obtain ⟨other, among, same⟩ := ih rest later
                exact ⟨other, List.mem_cons_of_mem _ among, same⟩

theorem mem_of_get?_byName {fields : List Field} {name : String} {field : Field}
    (found : (byName fields).get? name = some field) : field ∈ fields ∧ field.name = name := by
  obtain ⟨other, member, same⟩ := List.mem_map.mp (OrderedMap.mem_of_get?_ofList found)
  cases same
  exact ⟨member, rfl⟩

/-- Every field of a table is what one of the lines of its block declares. -/
theorem exists_line_of_ofBlock {block : TableBlock} {t : Table} {warnings : List Diagnostic}
    {name : String} {field : Field} (made : ofBlock rules enums block = .ok (t, warnings))
    (found : t.fields.get? name = some field) :
    ∃ line, FieldLine.interpret enums line = .ok (some field) := by
  unfold ofBlock at made
  cases read : fieldsOf enums block.lines with
  | error cause =>
      rw [read] at made
      cases made
  | ok fields =>
      rw [read] at made
      cases made
      obtain ⟨line, -, declared⟩ := exists_line_of_fieldsOf read (mem_of_get?_byName found).1
      exact ⟨line, declared⟩

theorem declared_of_ofBlock {block : TableBlock} {t : Table} {warnings : List Diagnostic}
    (made : ofBlock rules enums block = .ok (t, warnings)) : t.Declared rules enums := by
  have choices : ∀ name field, t.fields.get? name = some field →
      ∀ choice, field.enumName = some choice → choice ∈ enums.values.map Enumeration.name := by
    intro name field found choice chosen
    obtain ⟨line, declared⟩ := exists_line_of_ofBlock made found
    exact FieldLine.enum_of_interpret declared chosen
  unfold ofBlock at made
  cases read : fieldsOf enums block.lines with
  | error cause =>
      rw [read] at made
      cases made
  | ok fields =>
      rw [read] at made
      cases made
      exact ⟨rfl, rfl, fun name field found => (mem_of_get?_byName found).2, choices⟩

end Table

namespace Model

variable {rules : NamingRules}

/-- Every interpreted table is that of a block. -/
theorem exists_block_of_interpretTables {enums : OrderedMap Enumeration}
    {blocks : List TableBlock} {interpreted : List (Table × List Diagnostic)}
    (made : interpretTables rules enums blocks = .ok interpreted) :
    ∀ entry ∈ interpreted, ∃ block ∈ blocks, Table.ofBlock rules enums block = .ok entry := by
  induction blocks generalizing interpreted with
  | nil =>
      cases made
      simp
  | cons block blocks ih =>
      rw [interpretTables] at made
      cases first : Table.ofBlock rules enums block with
      | error cause =>
          rw [first] at made
          cases made
      | ok table =>
          cases rest : interpretTables rules enums blocks with
          | error cause =>
              rw [first, rest] at made
              cases made
          | ok others =>
              rw [first, rest] at made
              cases made
              intro entry member
              rcases List.mem_cons.mp member with rfl | later
              · exact ⟨block, List.mem_cons_self, first⟩
              · obtain ⟨other, among, same⟩ := ih rest entry later
                exact ⟨other, List.mem_cons_of_mem _ among, same⟩

/-- The tables that a text declares, before lookups are injected. -/
def declaredTables (rules : NamingRules) (text : String) :
    Except Text.NumeralError (OrderedMap Table) :=
  let extract := Extract.ofText text
  (interpretTables rules (enumsOf extract.enums) extract.tables).map fun interpreted =>
    tablesOf (interpreted.map Prod.fst)

/-- What a model has from the tables that its text declares. -/
structure Origin (rules : NamingRules) (declared : OrderedMap Table) (m : Model) : Prop where
  table : ∀ name t, declared.get? name = some t → t.name = name ∧ t.Declared rules m.enums
  tables : m.tables = (Lookup.inject declared m.references).1
  relationships : m.relationships = Relationship.resolve rules m.tables m.references
  userRelationships : m.userRelationships = Relationship.resolveUsers rules m.tables

/-- A model that is read from a text is that of its interpreted tables. -/
theorem exists_interpreted {strict : Bool} {text : String} {m : Model}
    (read : ofText rules strict text = .ok m) :
    ∃ interpreted, interpretTables rules (enumsOf (Extract.ofText text).enums)
        (Extract.ofText text).tables = .ok interpreted ∧
      m = ofTables rules (Extract.ofText text) interpreted := by
  unfold ofText ofExtract at read
  cases made : interpretTables rules (enumsOf (Extract.ofText text).enums)
      (Extract.ofText text).tables with
  | error cause =>
      rw [made] at read
      cases read
  | ok interpreted =>
      rw [made] at read
      simp only [Except.map, accept] at read
      split at read
      · cases read
      · cases read
        exact ⟨interpreted, rfl, rfl⟩

/-- Every enum of some blocks is kept under its own name. -/
theorem enum_name_of_enumsOf {blocks : List EnumBlock} {name : String} {enum : Enumeration}
    (found : (enumsOf blocks).get? name = some enum) : enum.name = name := by
  obtain ⟨block, -, same⟩ := List.mem_map.mp (OrderedMap.mem_of_get?_ofList found)
  cases same
  rfl

theorem enum_name_of_ofText {strict : Bool} {text : String} {m : Model} {name : String}
    {enum : Enumeration} (read : ofText rules strict text = .ok m)
    (found : m.enums.get? name = some enum) : enum.name = name := by
  obtain ⟨interpreted, -, rfl⟩ := exists_interpreted read
  exact enum_name_of_enumsOf found

/-- A table of a text is that of a block. -/
theorem exists_block_of_declaredTables {text : String} {declared : OrderedMap Table} {name : String}
    {t : Table} (made : declaredTables rules text = .ok declared)
    (found : declared.get? name = some t) : t.name = name ∧
      ∃ block ∈ (Extract.ofText text).tables, ∃ warnings,
        Table.ofBlock rules (enumsOf (Extract.ofText text).enums) block = .ok (t, warnings) := by
  unfold declaredTables at made
  simp only at made
  cases read : interpretTables rules (enumsOf (Extract.ofText text).enums)
      (Extract.ofText text).tables with
  | error cause =>
      rw [read] at made
      cases made
  | ok interpreted =>
      rw [read] at made
      cases made
      obtain ⟨t', member, same⟩ := List.mem_map.mp (OrderedMap.mem_of_get?_ofList found)
      cases same
      obtain ⟨⟨t', warnings⟩, among, rfl⟩ := List.mem_map.mp member
      obtain ⟨block, source, ofBlock⟩ := exists_block_of_interpretTables read _ among
      exact ⟨rfl, block, source, warnings, ofBlock⟩

/-- A model that is read from a text has its parts from the tables of the text. -/
theorem origin_of_ofText {strict : Bool} {text : String} {m : Model}
    (read : ofText rules strict text = .ok m) :
    ∃ declared, declaredTables rules text = .ok declared ∧ m.Origin rules declared := by
  obtain ⟨interpreted, made, rfl⟩ := exists_interpreted read
  have tables : declaredTables rules text = .ok (tablesOf (interpreted.map Prod.fst)) := by
    rw [declaredTables, made]
    rfl
  refine ⟨tablesOf (interpreted.map Prod.fst), tables, ?_, rfl, rfl, rfl⟩
  intro name t found
  obtain ⟨named, block, -, warnings, ofBlock⟩ := exists_block_of_declaredTables tables found
  exact ⟨named, Table.declared_of_ofBlock ofBlock⟩

namespace Origin

variable {declared : OrderedMap Table} {m : Model} {name : String} {t : Table}

/-- A table of a model is the declared one, with the lookups of the effective references into
it. -/
theorem of_get? (origin : m.Origin rules declared) (found : m.tables.get? name = some t) :
    ∃ before, declared.get? name = some before ∧ t = { before with
      fields := Lookup.putAll (Lookup.into m.tables name m.references) before.fields } := by
  have names : m.tables.names = declared.names := by
    rw [origin.tables, Lookup.names_inject]
  rw [Lookup.into_congr names]
  rw [origin.tables, Lookup.get?_inject] at found
  obtain ⟨before, stored, rfl⟩ := Option.map_eq_some_iff.mp found
  exact ⟨before, stored, rfl⟩

theorem name_eq (origin : m.Origin rules declared) (found : m.tables.get? name = some t) :
    t.name = name := by
  obtain ⟨before, stored, rfl⟩ := origin.of_get? found
  exact (origin.table name before stored).1

/-- Every table of a model is stored under its own name. -/
theorem get?_of_mem_values (origin : m.Origin rules declared) (member : t ∈ m.tables.values) :
    m.tables.get? t.name = some t := by
  obtain ⟨name, found⟩ := OrderedMap.mem_values_iff.mp member
  rw [origin.name_eq found, found]

theorem ownNames (origin : m.Origin rules declared) (found : m.tables.get? name = some t) :
    Lookup.OwnNames t.fields := by
  obtain ⟨before, stored, rfl⟩ := origin.of_get? found
  exact (origin.table name before stored).2.ownNames.putAll _

/-- A field of a model chooses among the enums of the model only. -/
theorem enums (origin : m.Origin rules declared) (found : m.tables.get? name = some t)
    {field : Field} (member : field ∈ t.fields.values) {choice : String}
    (chosen : field.enumName = some choice) : choice ∈ m.enumNames := by
  obtain ⟨before, stored, rfl⟩ := origin.of_get? found
  have declared := (origin.table name before stored).2
  obtain ⟨own, found'⟩ := OrderedMap.mem_values_iff.mp member
  exact Lookup.forall_get?_putAll (P := fun f => ∀ choice, f.enumName = some choice →
    choice ∈ m.enumNames) declared.ownNames _ (fun _ _ => nofun) (fun _ _ _ _ => nofun)
    own (declared.enums own) field found' choice chosen

theorem schemaName (origin : m.Origin rules declared) (found : m.tables.get? name = some t) :
    t.schemaName = rules.tableName name := by
  obtain ⟨before, stored, rfl⟩ := origin.of_get? found
  obtain ⟨rfl, declared⟩ := origin.table name before stored
  exact declared.schemaName

end Origin

end Model

end ErdDeploy
