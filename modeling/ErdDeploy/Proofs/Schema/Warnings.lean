import ErdDeploy.Proofs.Schema.Declarations

/-!
What is reported of a model behind its statements.

The stages behind the statements of a source report of two things: names that are declared again
(`RedeclarationWarning`), and references that take no effect or not the whole of it
(`ReferenceWarning`). All of these are warnings, so the errors of a model are those of its
statements (`Model.errors_ofTables`).
-/

namespace ErdDeploy

/-- A name is declared again. -/
inductive RedeclarationWarning : Diagnostic → Prop
  | enum (block : EnumBlock) : RedeclarationWarning (Model.enumRedeclared block)
  | table (table : Table) : RedeclarationWarning (Model.tableRedeclared table)
  | field (table : String) (earlier field : Field) :
    RedeclarationWarning (Table.fieldRedeclared table earlier field)

/-- A reference takes no effect, or not the whole of it. -/
inductive ReferenceWarning : Diagnostic → Prop
  | keyKept (r : Reference) (key : String) : ReferenceWarning (Lookup.keyKept r key)
  | unknownTables (r : Reference) (names : List String) :
    ReferenceWarning (Lookup.unknownTables r names)
  | nameTaken (name : String) (firstLine : Int) (r : Reference) :
    ReferenceWarning (Relationship.nameTaken name firstLine r)

section

variable {d : Diagnostic}

theorem RedeclarationWarning.isError (warning : RedeclarationWarning d) : d.isError = false := by
  cases warning <;> rfl

theorem ReferenceWarning.isError (warning : ReferenceWarning d) : d.isError = false := by
  cases warning <;> rfl

/-! ## Stage by stage -/

theorem Model.exists_of_mem_enumWarnings {before : List String} {blocks : List EnumBlock}
    (member : d ∈ enumWarnings before blocks) : ∃ block, d = enumRedeclared block := by
  induction blocks generalizing before with
  | nil => cases member
  | cons block blocks ih =>
      rw [enumWarnings, List.mem_append] at member
      rcases member with here | later
      · split at here
        · exact ⟨block, List.mem_singleton.mp here⟩
        · cases here
      · exact ih later

/-- A field is warned about if one of its name stands in front of it; the last of these is
overridden. -/
theorem Table.mem_redeclarations_iff {table : String} {before fields : List Field} :
    d ∈ redeclarations table before fields ↔
      ∃ past field behind earlier, fields = past ++ field :: behind ∧
        ((past.reverse ++ before).find? fun earlier => earlier.name = field.name) =
          some earlier ∧ d = fieldRedeclared table earlier field := by
  induction fields generalizing before with
  | nil => simp [redeclarations]
  | cons first fields ih =>
      rw [redeclarations, List.mem_append, Option.mem_toList, Option.map_eq_some_iff, ih]
      constructor
      · rintro (⟨earlier, found, same⟩ | ⟨past, field, behind, earlier, rfl, found, same⟩)
        · exact ⟨[], first, fields, earlier, rfl, found, same.symm⟩
        · refine ⟨first :: past, field, behind, earlier, rfl, ?_, same⟩
          rwa [List.reverse_cons, List.append_assoc, List.singleton_append]
      · rintro ⟨past, field, behind, earlier, whole, found, same⟩
        cases past with
        | nil =>
            obtain ⟨rfl, rfl⟩ := List.cons_eq_cons.mp whole
            exact Or.inl ⟨earlier, found, same.symm⟩
        | cons here past =>
            obtain ⟨rfl, rfl⟩ := List.cons_eq_cons.mp whole
            rw [List.reverse_cons, List.append_assoc, List.singleton_append] at found
            exact Or.inr ⟨past, field, behind, earlier, rfl, found, same⟩

/-- A warning about tables comes with a table, or says that one is declared again. -/
theorem Model.cases_of_mem_tableWarnings {before : List String}
    {interpreted : List (Table × List Diagnostic)} (member : d ∈ tableWarnings before interpreted) :
    (∃ entry ∈ interpreted, d ∈ entry.2) ∨ ∃ table, d = tableRedeclared table := by
  induction interpreted generalizing before with
  | nil => cases member
  | cons entry interpreted ih =>
      rw [tableWarnings, List.mem_append, List.mem_append] at member
      rcases member with (field | table) | later
      · exact Or.inl ⟨entry, List.mem_cons_self, field⟩
      · split at table
        · exact Or.inr ⟨entry.1, List.mem_singleton.mp table⟩
        · cases table
      · rcases ih later with ⟨other, among, field⟩ | table
        · exact Or.inl ⟨other, List.mem_cons_of_mem _ among, field⟩
        · exact Or.inr table

theorem Model.mem_tableWarnings (before : List String)
    {interpreted : List (Table × List Diagnostic)} {entry : Table × List Diagnostic}
    (among : entry ∈ interpreted) (inside : d ∈ entry.2) :
    d ∈ tableWarnings before interpreted := by
  induction interpreted generalizing before with
  | nil => cases among
  | cons first interpreted ih =>
      rw [tableWarnings, List.mem_append, List.mem_append]
      rcases List.mem_cons.mp among with rfl | later
      · exact Or.inl (Or.inl inside)
      · exact Or.inr (ih _ later)

/-- Injecting lookups reports of keys that are kept, and of tables that are not known. -/
theorem Lookup.cases_of_mem_inject {tables : OrderedMap Table} {references : List Reference}
    (member : d ∈ (inject tables references).2) :
    (∃ r key, d = keyKept r key) ∨ ∃ r names, d = unknownTables r names := by
  induction references generalizing tables with
  | nil => cases member
  | cons r references ih =>
      simp only [inject, List.mem_append] at member
      rcases member with here | later
      · unfold injectOne at here
        split at here
        · cases here
        · split at here
          · obtain ⟨key, -, rfl⟩ := List.mem_map.mp here
            exact Or.inl ⟨r, key, rfl⟩
          · exact Or.inr ⟨r, _, List.mem_singleton.mp here⟩
      · exact ih later

end

/-! ### Names that are taken -/

namespace Relationship

/-- The name of the relationship that a reference resolves to. -/
def nameOf (rules : NamingRules) (r : Reference) : String :=
  rules.relationshipName r.fromTable r.toTable

/-- The first reference that resolves to a name. -/
def firstOf (rules : NamingRules) (name : String) (references : List Reference) :
    Option Reference :=
  references.find? fun r => nameOf rules r = name

section

variable {rules : NamingRules} {before : List (String × Int)} {references : List Reference}
  {r : Reference}

/-- The line that is kept for a name, with some names kept before. -/
def keptLine (rules : NamingRules) (before : List (String × Int)) (references : List Reference)
    (name : String) : Option Int :=
  (before.lookup name).or ((firstOf rules name references).map Reference.line)

/-- What is kept behind a reference. -/
def keep (rules : NamingRules) (before : List (String × Int)) (r : Reference) :
    List (String × Int) :=
  if (before.lookup (nameOf rules r)).isSome then before else (nameOf rules r, r.line) :: before

theorem repeatedNames_cons : repeatedNames rules before (r :: references) =
    ((before.lookup (nameOf rules r)).map fun line => nameTaken (nameOf rules r) line r).toList ++
      repeatedNames rules (keep rules before r) references := by
  cases found : before.lookup (nameOf rules r) with
  | none =>
      have unseen : before.lookup (rules.relationshipName r.fromTable r.toTable) = none := found
      simp [repeatedNames, keep, unseen, nameOf]
  | some line =>
      have seen : before.lookup (rules.relationshipName r.fromTable r.toTable) = some line := found
      simp [repeatedNames, keep, seen, nameOf]

/-- A reference that is kept counts as one in front of the others. -/
theorem keptLine_keep (name : String) : keptLine rules (keep rules before r) references name =
    keptLine rules before (r :: references) name := by
  unfold keptLine keep firstOf
  by_cases same : nameOf rules r = name
  · subst same
    cases found : before.lookup (nameOf rules r) with
    | none => simp
    | some line => simp [found]
  · have other : (name == nameOf rules r) = false := by
      simpa using fun equal : name = nameOf rules r => same equal.symm
    rw [List.find?_cons_of_neg (by simpa using same)]
    split
    · rfl
    · rw [List.lookup_cons, other]

/-- A reference is warned about if a line was kept for its name in front of it. -/
theorem mem_repeatedNames_iff {d : Diagnostic} : d ∈ repeatedNames rules before references ↔
    ∃ past r behind line, references = past ++ r :: behind ∧
      keptLine rules before past (nameOf rules r) = some line ∧
        d = nameTaken (nameOf rules r) line r := by
  -- Each reference may add a line to those that are kept, so these are left open.
  induction references generalizing before with
  | nil => simp [repeatedNames]
  | cons first references ih =>
      rw [repeatedNames_cons, List.mem_append, Option.mem_toList, Option.map_eq_some_iff, ih]
      constructor
      · rintro (⟨line, kept, same⟩ | ⟨past, r, behind, line, rfl, kept, same⟩)
        · refine ⟨[], first, references, line, rfl, ?_, same.symm⟩
          rw [keptLine, kept, Option.some_or]
        · refine ⟨first :: past, r, behind, line, rfl, ?_, same⟩
          rwa [← keptLine_keep]
      · rintro ⟨past, r, behind, line, whole, kept, same⟩
        cases past with
        | nil =>
            obtain ⟨rfl, rfl⟩ := List.cons_eq_cons.mp whole
            refine Or.inl ⟨line, ?_, same.symm⟩
            simpa [keptLine, firstOf] using kept
        | cons here past =>
            obtain ⟨rfl, rfl⟩ := List.cons_eq_cons.mp whole
            rw [← keptLine_keep] at kept
            exact Or.inr ⟨past, r, behind, line, rfl, kept, same⟩

end

end Relationship

/-! ## Models -/

namespace Model

variable {rules : NamingRules} {extract : Extract} {interpreted : List (Table × List Diagnostic)}

/-- What is reported of the tables of a source says that a field of a block is declared again, or
that a table is. -/
theorem redeclared_of_mem_tableWarnings {enums : OrderedMap Enumeration}
    {blocks : List TableBlock} (made : interpretTables rules enums blocks = .ok interpreted)
    {d : Diagnostic} (member : d ∈ tableWarnings [] interpreted) :
    (∃ block ∈ blocks, d ∈ Table.redeclarations block.name [] (block.fields enums)) ∨
      ∃ table, d = tableRedeclared table := by
  rcases cases_of_mem_tableWarnings member with ⟨entry, among, inside⟩ | table
  · rw [interpretTables_eq made] at among
    obtain ⟨block, source, rfl⟩ := List.mem_map.mp among
    exact Or.inl ⟨block, source, inside⟩
  · exact Or.inr table

/-- What is reported of the fields of a block is reported of the tables. -/
theorem mem_tableWarnings_of_redeclared {enums : OrderedMap Enumeration}
    {blocks : List TableBlock} (made : interpretTables rules enums blocks = .ok interpreted)
    {block : TableBlock} (source : block ∈ blocks) {d : Diagnostic}
    (inside : d ∈ Table.redeclarations block.name [] (block.fields enums)) :
    d ∈ tableWarnings [] interpreted := by
  have among : (Table.read rules enums block,
      Table.redeclarations block.name [] (block.fields enums)) ∈ interpreted := by
    rw [interpretTables_eq made]
    exact List.mem_map_of_mem source
  exact mem_tableWarnings [] among inside

/-- What is reported of names that are declared again. -/
def redeclarationWarnings (extract : Extract) (interpreted : List (Table × List Diagnostic)) :
    List Diagnostic :=
  enumWarnings [] extract.enums ++ tableWarnings [] interpreted

/-- What is reported of references. -/
def referenceWarnings (rules : NamingRules) (extract : Extract)
    (interpreted : List (Table × List Diagnostic)) : List Diagnostic :=
  (Lookup.inject (tablesOf (interpreted.map Prod.fst)) extract.references).2 ++
    Relationship.resolveWarnings rules (ofTables rules extract interpreted).tables
      extract.references

theorem diagnostics_split : (ofTables rules extract interpreted).diagnostics =
    extract.diagnostics ++ (redeclarationWarnings extract interpreted ++
      referenceWarnings rules extract interpreted) := by
  simp only [redeclarationWarnings, referenceWarnings, ← List.append_assoc]
  rfl

theorem redeclarationWarning_of_mem (made : interpretTables rules (enumsOf extract.enums)
    extract.tables = .ok interpreted) {d : Diagnostic}
    (member : d ∈ redeclarationWarnings extract interpreted) : RedeclarationWarning d := by
  rcases List.mem_append.mp member with enum | table
  · obtain ⟨block, rfl⟩ := exists_of_mem_enumWarnings enum
    exact .enum block
  · rcases redeclared_of_mem_tableWarnings made table with ⟨block, -, inside⟩ | ⟨t, rfl⟩
    · obtain ⟨-, field, -, earlier, -, -, rfl⟩ := Table.mem_redeclarations_iff.mp inside
      exact .field block.name earlier field
    · exact .table t

theorem referenceWarning_of_mem {d : Diagnostic}
    (member : d ∈ referenceWarnings rules extract interpreted) : ReferenceWarning d := by
  rcases List.mem_append.mp member with lookup | relationship
  · rcases Lookup.cases_of_mem_inject lookup with ⟨r, key, rfl⟩ | ⟨r, names, rfl⟩
    · exact .keyKept r key
    · exact .unknownTables r names
  · obtain ⟨-, r, -, line, -, -, rfl⟩ := Relationship.mem_repeatedNames_iff.mp relationship
    exact .nameTaken _ line r

/-- What a model reports of its source: the diagnostics of the statements, and behind them
warnings only. -/
theorem exists_warnings (made : interpretTables rules (enumsOf extract.enums) extract.tables =
    .ok interpreted) : ∃ warnings,
      (ofTables rules extract interpreted).diagnostics = extract.diagnostics ++ warnings ∧
        ∀ d ∈ warnings, d.isError = false := by
  refine ⟨_, diagnostics_split, fun d member => ?_⟩
  rcases List.mem_append.mp member with redeclared | related
  · exact (redeclarationWarning_of_mem made redeclared).isError
  · exact (referenceWarning_of_mem related).isError

/-- The errors of a model are those of its statements. -/
theorem errors_ofTables (made : interpretTables rules (enumsOf extract.enums) extract.tables =
    .ok interpreted) : (ofTables rules extract interpreted).errors =
      extract.diagnostics.filter Diagnostic.isError := by
  obtain ⟨warnings, split, others⟩ := exists_warnings made
  have none : warnings.filter Diagnostic.isError = [] := by
    rw [List.filter_eq_nil_iff]
    intro d member
    rw [others d member]
    exact Bool.false_ne_true
  rw [errors, split, List.filter_append, none, List.append_nil]

end Model

end ErdDeploy
