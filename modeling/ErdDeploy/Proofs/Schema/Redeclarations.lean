import ErdDeploy.Proofs.Data.Results
import ErdDeploy.Proofs.Schema.Warnings
import ErdDeploy.Proofs.Source.Parts
import Mathlib.Data.List.Infix

/-!
Names that are declared again.

Enums, tables and the fields of a table stand in the order in which their names first come,
and each is what the last declaration of its name says. An enum counts for the tables in
front of it as well, and a line that yields no field counts for nothing.

Every declaration but the first of a name is warned about once, and nothing else is warned
about in these words (`Model.filter_isRedeclaration`). The warning about a field names the
line of the declaration just before.
-/

namespace ErdDeploy

/-! ## Warnings -/

/-- A warning says that something, an enum or a table or a field, is declared again. It begins with
these words; a diagnostic that quotes the source may hold them elsewhere. -/
def Diagnostic.Redeclares (what : String) (d : Diagnostic) : Prop :=
  d.isError = false ∧ (what ++ " '").toList <+: d.message.toList ∧
    "' redeclared".toList <:+: d.message.toList

/-- A warning says that something is declared again. -/
def Diagnostic.IsRedeclaration (d : Diagnostic) : Prop :=
  d.Redeclares "Enum" ∨ d.Redeclares "Table" ∨ d.Redeclares "Field"

instance (what : String) : DecidablePred (Diagnostic.Redeclares what) :=
  fun d => inferInstanceAs (Decidable (_ ∧ _ ∧ "' redeclared".toList <:+: d.message.toList))

instance : DecidablePred Diagnostic.IsRedeclaration :=
  fun d => inferInstanceAs (Decidable (_ ∨ _ ∨ d.Redeclares "Field"))

/-! ### Which warnings these are -/

section

variable {d : Diagnostic}

/-- A warning in these words, whatever is declared again and whatever follows. -/
theorem Diagnostic.redeclares_of_message {what : String} (name behind : String)
    (warning : d.isError = false)
    (message : d.message.toList = what.toList ++ " '".toList ++ name.toList ++
      "' redeclared".toList ++ behind.toList) : d.Redeclares what := by
  refine ⟨warning, ?_, ?_⟩
  · rw [message, String.toList_append]
    simp only [List.append_assoc]
    rw [← List.append_assoc]
    exact List.prefix_append _ _
  · rw [message]
    exact List.infix_append _ _ _

theorem Model.redeclares_enumRedeclared (block : EnumBlock) :
    (enumRedeclared block).Redeclares "Enum" := by
  refine Diagnostic.redeclares_of_message block.name "; earlier definition is overridden" rfl ?_
  simp [enumRedeclared, Diagnostic.warning, toString]

theorem Model.redeclares_tableRedeclared (table : Table) :
    (tableRedeclared table).Redeclares "Table" := by
  refine Diagnostic.redeclares_of_message table.name "; earlier definition is overridden" rfl ?_
  simp [tableRedeclared, Diagnostic.warning, toString]

theorem Model.not_redeclares_field_enumRedeclared (block : EnumBlock) :
    ¬ (enumRedeclared block).Redeclares "Field" := by
  rintro ⟨-, start, -⟩
  simp [enumRedeclared, Diagnostic.warning, toString] at start

theorem Model.not_redeclares_field_tableRedeclared (table : Table) :
    ¬ (tableRedeclared table).Redeclares "Field" := by
  rintro ⟨-, start, -⟩
  simp [tableRedeclared, Diagnostic.warning, toString] at start

theorem Table.redeclares_fieldRedeclared (table : String) (earlier field : Field) :
    (fieldRedeclared table earlier field).Redeclares "Field" := by
  refine Diagnostic.redeclares_of_message field.name
    (" in table '" ++ table ++ s!"'; line {earlier.line} is overridden") rfl ?_
  simp [fieldRedeclared, Diagnostic.warning, toString]

/-- A text that begins otherwise is no such warning. -/
theorem Mode.Notice.not_isRedeclaration (notice : Notice d) : ¬ d.IsRedeclaration := by
  -- The first characters tell: each of the three words is compared with each kind of notice.
  rintro (⟨-, start, -⟩ | ⟨-, start, -⟩ | ⟨-, start, -⟩) <;> cases notice with
  | unnamed block => cases kind : block.kind <;> simp [kind, BlockKind.title] at start
  | _ => simp [OpenBlock.missingBrace, nestedIgnored, Mode.unrecognized] at start

theorem Extract.not_isRedeclaration {text : String} (member : d ∈ (ofText text).diagnostics) :
    ¬ d.IsRedeclaration := by
  rcases Source.cases_of_mem_diagnostics member with notice | ⟨-, start, rfl⟩
  · exact notice.not_isRedeclaration
  · rintro (⟨nonsense, -⟩ | ⟨nonsense, -⟩ | ⟨nonsense, -⟩) <;> cases nonsense

theorem ReferenceWarning.not_isRedeclaration (warning : ReferenceWarning d) :
    ¬ d.IsRedeclaration := by
  rintro (⟨-, start, -⟩ | ⟨-, start, -⟩ | ⟨-, start, -⟩) <;> cases warning with
  | keyKept => simp [Lookup.keyKept, Diagnostic.warning, toString] at start
  | unknownTables => simp [Lookup.unknownTables, Diagnostic.warning] at start
  | nameTaken => simp [Relationship.nameTaken, Diagnostic.warning, toString] at start

theorem RedeclarationWarning.isRedeclaration (warning : RedeclarationWarning d) :
    d.IsRedeclaration := by
  cases warning with
  | enum block => exact Or.inl (Model.redeclares_enumRedeclared block)
  | table table => exact Or.inr (Or.inl (Model.redeclares_tableRedeclared table))
  | field table earlier field =>
      exact Or.inr (Or.inr (Table.redeclares_fieldRedeclared table earlier field))

end

/-! ### How many there are -/

theorem Model.length_enumWarnings (before : List String) (blocks : List EnumBlock) :
    (enumWarnings before blocks).length = repeats before (blocks.map EnumBlock.name) := by
  induction blocks generalizing before with
  | nil => rfl
  | cons block blocks ih =>
      rw [enumWarnings, List.length_append, ih, List.map_cons, repeats]
      congr 1
      by_cases known : block.name ∈ before
      · simp [known]
      · simp [known]

theorem Table.length_redeclarations (table : String) (before fields : List Field) :
    (redeclarations table before fields).length =
      repeats (before.map Field.name) (fields.map Field.name) := by
  induction fields generalizing before with
  | nil => rfl
  | cons field fields ih =>
      rw [redeclarations, List.length_append, ih, List.map_cons, List.map_cons, repeats]
      congr 1
      cases found : before.find? fun earlier => earlier.name = field.name with
      | none =>
          have unknown : field.name ∉ before.map Field.name := by
            simpa using found
          rw [if_neg unknown]
          rfl
      | some earlier =>
          have same : earlier.name = field.name := by
            simpa using List.find?_some found
          have known : field.name ∈ before.map Field.name :=
            List.mem_map.mpr ⟨earlier, List.mem_of_find?_eq_some found, same⟩
          rw [if_pos known]
          rfl

theorem Model.length_tableWarnings (before : List String)
    (interpreted : List (Table × List Diagnostic)) :
    (tableWarnings before interpreted).length =
      repeats before (interpreted.map fun entry => entry.1.name) +
        (interpreted.map fun entry => entry.2.length).sum := by
  induction interpreted generalizing before with
  | nil => rfl
  | cons entry interpreted ih =>
      rw [tableWarnings, List.length_append, List.length_append, ih, List.map_cons, List.map_cons,
        List.sum_cons, repeats]
      by_cases known : entry.1.name ∈ before
      · simp only [List.contains_iff_mem.mpr known, known, if_true, List.length_singleton]
        omega
      · simp only [known, List.contains_iff_mem, if_false, List.length_nil]
        omega

/-! ### Which fields they name -/

/-- The warning about a field on one line that was declared on another line before. -/
def TableBlock.overridden (block : TableBlock) (name : String) (earlier later : SourceLine) :
    Diagnostic :=
  .warning later.number
    s!"Field '{name}' redeclared in table '{block.name}'; line {earlier.number} is overridden"

/-- Of a block, exactly the lines are warned about that yield a name again, each with the line
before that yields it. -/
theorem TableBlock.mem_redeclarations_iff {enums : OrderedMap Enumeration} {block : TableBlock}
    {d : Diagnostic} : d ∈ Table.redeclarations block.name [] (block.fields enums) ↔
      ∃ name past later behind earlier, block.lines = past ++ later :: behind ∧
        later.Yields enums name ∧ LastWith (SourceLine.Yields enums name) past earlier ∧
        d = block.overridden name earlier later := by
  rw [Table.mem_redeclarations_iff]
  constructor
  · rintro ⟨before, field, rest, other, whole, found, rfl⟩
    obtain ⟨front, more, split, rfl, others⟩ := List.filterMap_eq_append_iff.mp whole
    obtain ⟨silent, later, behind, rfl, nothing, made, -⟩ := List.filterMap_eq_cons_iff.mp others
    have passed : front.filterMap (·.field? enums) =
        (front ++ silent).filterMap (·.field? enums) := by
      rw [List.filterMap_append, List.filterMap_eq_nil_iff.mpr nothing, List.append_nil]
    rw [List.append_nil, passed, find?_reverse_eq_some_iff] at found
    simp only [decide_eq_true_eq] at found
    obtain ⟨earlier, last, declared⟩ := lastWith_field?_iff.mp found
    have yields := SourceLine.field?_eq_some_iff.mp made
    refine ⟨field.name, front ++ silent, later, behind, earlier, ?_, ⟨field, yields, rfl⟩, last, ?_⟩
    · rw [split, List.append_assoc]
    · rw [Table.fieldRedeclared, FieldLine.line_of_interpret yields,
        FieldLine.line_of_interpret declared, overridden]
  · rintro ⟨name, past, later, behind, earlier, whole, ⟨field, yields, rfl⟩, last, rfl⟩
    obtain ⟨other, declared, same⟩ := last.holds
    have found := lastWith_field?_iff.mpr ⟨earlier, last, declared⟩
    refine ⟨past.filterMap (·.field? enums), field, behind.filterMap (·.field? enums), other,
      ?_, ?_, ?_⟩
    · rw [fields, whole, List.filterMap_append, List.filterMap_cons,
        SourceLine.field?_eq_some_iff.mpr yields]
    · rw [List.append_nil, find?_reverse_eq_some_iff]
      simpa only [decide_eq_true_eq] using found
    · rw [Table.fieldRedeclared, FieldLine.line_of_interpret yields,
        FieldLine.line_of_interpret declared, overridden]

/-! ## Models -/

/-- A table as a block declares it: the fields stand in the order in which their names first come,
and each is what the last line says that yields its name. -/
structure Table.LastDeclared (rules : NamingRules) (enums : OrderedMap Enumeration)
    (block : TableBlock) (t : Table) : Prop where
  name : t.name = block.name
  schemaName : t.schemaName = rules.tableName block.name
  isReserved : t.isReserved = rules.isReserved block.name
  line : t.line = block.line
  names : t.fields.names = (block.fieldNames enums).eraseDups
  field : ∀ name field, t.fields.get? name = some field ↔
    ∃ line, LastWith (SourceLine.Yields enums name) block.lines line ∧
      FieldLine.interpret enums line = .ok (some field)

theorem Table.lastDeclared_read (rules : NamingRules) (enums : OrderedMap Enumeration)
    (block : TableBlock) : (read rules enums block).LastDeclared rules enums block where
  name := rfl
  schemaName := rfl
  isReserved := rfl
  line := rfl
  names := by
    rw [read, byName, OrderedMap.names_ofList, List.map_map]
    rfl
  field := by
    intro name field
    rw [read, byName, OrderedMap.get?_ofList_map_iff]
    simp only [exists_eq_right]
    exact lastWith_field?_iff

namespace Model

/-- A model keeps, of each name in a source, the last declaration at the place of the first one;
`declared` holds the tables before lookups are injected, which only puts new fields behind those
that are there. -/
structure KeepsLast (rules : NamingRules) (e : Extract) (declared : OrderedMap Table) (m : Model) :
    Prop where
  enumNames : m.enums.names = (e.enums.map EnumBlock.name).eraseDups
  enum : ∀ name enum, m.enums.get? name = some enum ↔
    ∃ block, LastWith (fun block => block.name = name) e.enums block ∧
      ⟨block.name, block.values⟩ = enum
  declaredNames : declared.names = (e.tables.map TableBlock.name).eraseDups
  table : ∀ name t, declared.get? name = some t →
    ∃ block, LastWith (fun block => block.name = name) e.tables block ∧
      t.LastDeclared rules m.enums block
  tables : m.tables = (Lookup.inject declared m.references).1
  tableNames : m.tables.names = (e.tables.map TableBlock.name).eraseDups
  fieldNames : ∀ name t, m.tables.get? name = some t → ∃ before added,
    declared.get? name = some before ∧ t.fields.names = before.fields.names ++ added

/-- A model warns of every declaration but the first of its name, and of a field with the line of
the declaration just before. -/
structure WarnsOfRepeats (e : Extract) (m : Model) : Prop where
  count : m.diagnostics.countP (·.IsRedeclaration) +
      ((e.enums.map EnumBlock.name).eraseDups.length +
        (e.tables.map TableBlock.name).eraseDups.length +
        (e.tables.map fun block => (block.fieldNames m.enums).eraseDups.length).sum) =
    e.enums.length + e.tables.length +
      (e.tables.map fun block => (block.fieldNames m.enums).length).sum
  field : ∀ d, d ∈ m.diagnostics ∧ d.Redeclares "Field" ↔
    ∃ block ∈ e.tables, ∃ name past later behind earlier,
      block.lines = past ++ later :: behind ∧ later.Yields m.enums name ∧
      LastWith (SourceLine.Yields m.enums name) past earlier ∧
      d = block.overridden name earlier later

variable {rules : NamingRules} {text : String} {interpreted : List (Table × List Diagnostic)}

theorem keepsLast_ofTables (made : interpretTables rules (enumsOf (Extract.ofText text).enums)
    (Extract.ofText text).tables = .ok interpreted) :
    (ofTables rules (Extract.ofText text) interpreted).KeepsLast rules (Extract.ofText text)
      (tablesOf (interpreted.map Prod.fst)) := by
  have names : (tablesOf (interpreted.map Prod.fst)).names =
      ((Extract.ofText text).tables.map TableBlock.name).eraseDups := by
    rw [interpretTables_eq made, tablesOf, OrderedMap.names_ofList, List.map_map, List.map_map,
      List.map_map]
    rfl
  have get? : ∀ name t, (tablesOf (interpreted.map Prod.fst)).get? name = some t →
      ∃ block, LastWith (fun block => block.name = name) (Extract.ofText text).tables block ∧
        t.LastDeclared rules (enumsOf (Extract.ofText text).enums) block := by
    intro name t found
    rw [interpretTables_eq made, List.map_map, tablesOf, List.map_map] at found
    obtain ⟨block, last, rfl⟩ := OrderedMap.get?_ofList_map_iff.mp found
    exact ⟨block, last, Table.lastDeclared_read _ _ _⟩
  refine ⟨?_, ?_, names, get?, rfl, ?_, ?_⟩
  · exact names_enumsOf _
  · exact fun name enum => OrderedMap.get?_ofList_map_iff
  · exact (Lookup.names_inject _).trans names
  · intro name t found
    obtain ⟨before, stored, rfl⟩ :=
      Option.map_eq_some_iff.mp ((Lookup.get?_inject _).symm.trans found)
    obtain ⟨added, appended⟩ := Lookup.exists_names_putAll
      (Lookup.into (tablesOf (interpreted.map Prod.fst)) name (Extract.ofText text).references)
      before.fields
    exact ⟨before, added, stored, appended⟩

/-- Only the warnings of two stages say that something is declared again, and all of them do. -/
theorem filter_isRedeclaration (made : interpretTables rules (enumsOf (Extract.ofText text).enums)
    (Extract.ofText text).tables = .ok interpreted) :
    (ofTables rules (Extract.ofText text) interpreted).diagnostics.filter (·.IsRedeclaration) =
      redeclarationWarnings (Extract.ofText text) interpreted := by
  have extract : (Extract.ofText text).diagnostics.filter (·.IsRedeclaration) = [] := by
    refine List.filter_eq_nil_iff.mpr fun d member => ?_
    simpa using Extract.not_isRedeclaration member
  have redeclared : (redeclarationWarnings (Extract.ofText text) interpreted).filter
      (·.IsRedeclaration) = redeclarationWarnings (Extract.ofText text) interpreted := by
    refine List.filter_eq_self.mpr fun d member => decide_eq_true ?_
    exact (redeclarationWarning_of_mem made member).isRedeclaration
  have related : (referenceWarnings rules (Extract.ofText text) interpreted).filter
      (·.IsRedeclaration) = [] := by
    refine List.filter_eq_nil_iff.mpr fun d member => ?_
    simpa using (referenceWarning_of_mem member).not_isRedeclaration
  rw [diagnostics_split, List.filter_append, List.filter_append, extract, redeclared, related,
    List.nil_append, List.append_nil]

theorem isRedeclaration_iff (made : interpretTables rules (enumsOf (Extract.ofText text).enums)
    (Extract.ofText text).tables = .ok interpreted) {d : Diagnostic} :
    d ∈ (ofTables rules (Extract.ofText text) interpreted).diagnostics ∧ d.IsRedeclaration ↔
      d ∈ redeclarationWarnings (Extract.ofText text) interpreted := by
  rw [← filter_isRedeclaration made, List.mem_filter, decide_eq_true_iff]

/-- The warnings about fields are those that come with the tables. -/
theorem redeclares_field_iff (made : interpretTables rules (enumsOf (Extract.ofText text).enums)
    (Extract.ofText text).tables = .ok interpreted) {d : Diagnostic} :
    d ∈ (ofTables rules (Extract.ofText text) interpreted).diagnostics ∧ d.Redeclares "Field" ↔
      ∃ block ∈ (Extract.ofText text).tables, d ∈ Table.redeclarations block.name []
        (block.fields (enumsOf (Extract.ofText text).enums)) := by
  constructor
  · rintro ⟨member, field⟩
    have among := (isRedeclaration_iff made).mp ⟨member, Or.inr (Or.inr field)⟩
    rcases List.mem_append.mp among with enum | table
    · obtain ⟨block, rfl⟩ := exists_of_mem_enumWarnings enum
      exact absurd field (not_redeclares_field_enumRedeclared block)
    · rcases redeclared_of_mem_tableWarnings made table with inBlock | ⟨t, rfl⟩
      · exact inBlock
      · exact absurd field (not_redeclares_field_tableRedeclared t)
  · rintro ⟨block, source, inside⟩
    have reported := mem_tableWarnings_of_redeclared made source inside
    obtain ⟨member, -⟩ := (isRedeclaration_iff made).mpr (List.mem_append_right _ reported)
    obtain ⟨-, field, -, earlier, -, -, rfl⟩ := Table.mem_redeclarations_iff.mp inside
    exact ⟨member, Table.redeclares_fieldRedeclared _ earlier field⟩

theorem warnsOfRepeats_ofTables (made : interpretTables rules
    (enumsOf (Extract.ofText text).enums) (Extract.ofText text).tables = .ok interpreted) :
    (ofTables rules (Extract.ofText text) interpreted).WarnsOfRepeats (Extract.ofText text) where
  count := by
    have known : (ofTables rules (Extract.ofText text) interpreted).enums =
        enumsOf (Extract.ofText text).enums := rfl
    have enums := repeats_add_length ((Extract.ofText text).enums.map EnumBlock.name)
    have tables := repeats_add_length ((Extract.ofText text).tables.map TableBlock.name)
    have fields := sum_repeats_add (TableBlock.fieldNames (enumsOf (Extract.ofText text).enums))
      (Extract.ofText text).tables
    have tableNames : interpreted.map (fun entry => entry.1.name) =
        (Extract.ofText text).tables.map TableBlock.name := by
      rw [interpretTables_eq made, List.map_map]
      rfl
    have warnings : interpreted.map (fun entry => entry.2.length) =
        (Extract.ofText text).tables.map fun block =>
          repeats [] (block.fieldNames (enumsOf (Extract.ofText text).enums)) := by
      rw [interpretTables_eq made, List.map_map]
      exact List.map_congr_left fun block _ => Table.length_redeclarations _ [] _
    rw [List.length_map] at enums tables
    rw [List.countP_eq_length_filter, filter_isRedeclaration made, redeclarationWarnings,
      List.length_append, length_enumWarnings, length_tableWarnings, tableNames, warnings, known]
    omega
  field := by
    intro d
    rw [redeclares_field_iff made]
    exact exists_congr fun block => and_congr_right fun _ => TableBlock.mem_redeclarations_iff

/-- **Last declarations win.** Of a source that is read, enums, tables and the fields of tables
before lookups are injected stand where their names first come, and each is what the last
declaration of its name says. There are as many warnings about names that are declared again as
there are more declarations than distinct names, and a warning about a field names the line of the
declaration just before. -/
theorem last_declarations_win {strict : Bool} {m : Model}
    (read : ofText rules strict text = .ok m) :
    (∃ declared, declaredTables rules text = .ok declared ∧
      m.KeepsLast rules (Extract.ofText text) declared) ∧
      m.WarnsOfRepeats (Extract.ofText text) := by
  obtain ⟨interpreted, made, rfl⟩ := exists_interpreted read
  refine ⟨⟨_, ?_, keepsLast_ofTables made⟩, warnsOfRepeats_ofTables made⟩
  rw [declaredTables, made]
  rfl

/-- A table that is declared twice, with a field that is declared three times around a line that
yields no field, and an enum that is declared twice behind its use. -/
def repeatedDeclarations : String :=
  "Table T \x7b\nid GUID [pk]\nstatus S\nnote\nstatus String(10)\nother S\nstatus S\n\x7d\n" ++
    "Enum S \x7b\nA\n\x7d\nEnum R \x7b\nX\n\x7d\nEnum S \x7b\nB\nC\nB\n\x7d\n" ++
      "Table T \x7b\nstatus S\nid GUID [pk]\nstatus int\n\x7d"

theorem last_declarations_win_repeated :
    ∃ m, ofText {} true repeatedDeclarations = .ok m ∧
      m.enums.values = [⟨"S", ["B", "C"]⟩, ⟨"R", ["X"]⟩] ∧
      m.diagnostics.map Diagnostic.line = [15, 5, 7, 23, 20] ∧
      (∃ declared, declaredTables {} repeatedDeclarations = .ok declared ∧
        m.KeepsLast {} (Extract.ofText repeatedDeclarations) declared) ∧
      m.WarnsOfRepeats (Extract.ofText repeatedDeclarations) := by
  have computed : (ofText {} true repeatedDeclarations).toOption.map (fun m =>
      (m.enums.values, m.diagnostics.map Diagnostic.line)) =
        some ([⟨"S", ["B", "C"]⟩, ⟨"R", ["X"]⟩], [15, 5, 7, 23, 20]) := by
    decide +kernel
  obtain ⟨m, read, both⟩ := exists_of_toOption_map computed
  obtain ⟨enums, lines⟩ := Prod.mk.inj both
  exact ⟨m, read, enums, lines, last_declarations_win read⟩

end Model

end ErdDeploy
