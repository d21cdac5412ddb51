import ErdDeploy.Proofs.Schema.Unnumbered
import ErdDeploy.Proofs.Source.Layout

/-!
What the layout of a source does to its schema: nothing.

Sources that differ in their layout are refused for the same reason, or give models that
are equal without the numbers of lines (`Model.ofText_relaid`). Their diagnostics
correspond one by one: each is as severe as the other and has the same message, except
that where a message quotes the number of a line, that number may differ.

The models are compared stage by stage. What each stage makes does not see the numbers, so
only the diagnostics that quote one have to be looked at by themselves: those about a
field that is declared again, and about the name of a relationship that was used before.
-/

namespace ErdDeploy

/-! ## What is alike -/

/-- The same is reported of other places, perhaps with the number of another line quoted. -/
structure Diagnostic.Alike (d d' : Diagnostic) : Prop where
  severity : d.severity = d'.severity
  message : d.message = d'.message ∨ ∃ (before behind : String) (line line' : Int),
    d.message = before ++ toString line ++ behind ∧ d'.message = before ++ toString line' ++ behind

/-- The models are equal without the numbers of lines, and the same is reported of them. -/
structure Model.Alike (m m' : Model) : Prop where
  unnumbered : m.unnumbered = m'.unnumbered
  diagnostics : List.Forall₂ Diagnostic.Alike m.diagnostics m'.diagnostics

/-- Both readings fail for the same cause, or both succeed with related results. -/
inductive ResultsAlike {ε α β : Type} (R : α → β → Prop) : Except ε α → Except ε β → Prop
  | error (cause : ε) : ResultsAlike R (.error cause) (.error cause)
  | ok {a : α} {b : β} : R a b → ResultsAlike R (.ok a) (.ok b)

namespace ResultsAlike

variable {ε α β γ δ : Type} {R : α → β → Prop} {S : γ → δ → Prop} {r : Except ε α}
  {r' : Except ε β}

theorem of_map_eq {f : α → γ} {g : β → γ} (same : r.map f = r'.map g) :
    ResultsAlike (fun a b => f a = g b) r r' := by
  cases r with
  | error cause =>
      cases r' with
      | error => cases same; exact .error cause
      | ok => cases same
  | ok a =>
      cases r' with
      | error => cases same
      | ok b =>
          have same : f a = g b := by simpa [Except.map] using same
          exact .ok same

theorem bind {f : α → Except ε γ} {g : β → Except ε δ} (alike : ResultsAlike R r r')
    (next : ∀ a b, R a b → ResultsAlike S (f a) (g b)) : ResultsAlike S (r >>= f) (r' >>= g) := by
  cases alike with
  | error cause => exact .error cause
  | ok related => exact next _ _ related

theorem map {f : α → γ} {g : β → δ} (alike : ResultsAlike R r r')
    (next : ∀ a b, R a b → S (f a) (g b)) : ResultsAlike S (r.map f) (r'.map g) := by
  cases alike with
  | error cause => exact .error cause
  | ok related => exact .ok (next _ _ related)

end ResultsAlike

/-! ## Diagnostics -/

namespace Diagnostic

theorem alike_of_unplaced {d d' : Diagnostic} (same : d.unplaced = d'.unplaced) : d.Alike d' := by
  have message : d.unplaced.message = d'.unplaced.message := by rw [same]
  have severity : d.unplaced.severity = d'.unplaced.severity := by rw [same]
  exact ⟨severity, Or.inl message⟩

theorem alikes_of_unplaced {ds ds' : List Diagnostic}
    (same : ds.map unplaced = ds'.map unplaced) : List.Forall₂ Alike ds ds' :=
  (forall₂_of_map_eq same).imp fun _ _ => alike_of_unplaced

end Diagnostic

namespace Table

theorem fieldRedeclared_alike (table : String) {earlier earlier' field field' : Field}
    (same : field.unnumbered = field'.unnumbered) :
    (fieldRedeclared table earlier field).Alike (fieldRedeclared table earlier' field') := by
  have name : field.name = field'.name := Field.name_of_unnumbered same
  refine ⟨rfl, Or.inr ⟨s!"Field '{field.name}' redeclared in table '{table}'; line ",
    " is overridden", earlier.line, earlier'.line, rfl, ?_⟩⟩
  rw [name]
  rfl

theorem redeclarations_alike (table : String) {before before' fields fields' : List Field}
    (known : before.map Field.unnumbered = before'.map Field.unnumbered)
    (same : fields.map Field.unnumbered = fields'.map Field.unnumbered) :
    List.Forall₂ Diagnostic.Alike (redeclarations table before fields)
      (redeclarations table before' fields') := by
  have related := forall₂_of_map_eq same
  clear same
  induction related generalizing before before' with
  | nil => exact .nil
  | @cons field field' fields fields' here _ ih =>
      have name : field.name = field'.name := Field.name_of_unnumbered here
      have found : (before.find? fun earlier => earlier.name = field.name).map Field.unnumbered =
          (before'.find? fun earlier => earlier.name = field'.name).map Field.unnumbered := by
        have named := congrArg (List.find? fun earlier => earlier.name = field.name) known
        rw [List.find?_map, List.find?_map] at named
        rw [← name]
        exact named
      have rest : List.Forall₂ Diagnostic.Alike (redeclarations table (field :: before) fields)
          (redeclarations table (field' :: before') fields') :=
        ih (by rw [List.map_cons, List.map_cons, here, known])
      rw [redeclarations, redeclarations]
      refine List.rel_append ?_ rest
      -- Both find a field of that name or neither does; only the line that is quoted may differ.
      cases first : before.find? fun earlier => earlier.name = field.name with
      | none =>
          cases second : before'.find? fun earlier => earlier.name = field'.name with
          | none => exact .nil
          | some => rw [first, second] at found; cases found
      | some earlier =>
          cases second : before'.find? fun earlier => earlier.name = field'.name with
          | none => rw [first, second] at found; cases found
          | some earlier' => exact .cons (fieldRedeclared_alike table here) .nil

/-- The tables are equal without the numbers of lines, and so is what is reported of them. -/
structure Alike (read read' : Table × List Diagnostic) : Prop where
  table : read.1.unnumbered = read'.1.unnumbered
  warnings : List.Forall₂ Diagnostic.Alike read.2 read'.2

theorem Alike.name {read read' : Table × List Diagnostic} (alike : Alike read read') :
    read.1.name = read'.1.name := by
  have names : read.1.unnumbered.name = read'.1.unnumbered.name := by rw [alike.table]
  exact names

theorem ofBlock_alike (rules : NamingRules) (enums : OrderedMap Enumeration)
    {block block' : TableBlock} (same : block.bare = block'.bare) :
    ResultsAlike Alike (ofBlock rules enums block) (ofBlock rules enums block') := by
  have name : block.bare.name = block'.bare.name := by rw [same]
  have lines : block.bare.lines = block'.bare.lines := by rw [same]
  have fields : (fieldsOf enums block.lines).map (List.map Field.unnumbered) =
      (fieldsOf enums block'.lines).map (List.map Field.unnumbered) := by
    rw [← fieldsOf_bare, ← fieldsOf_bare]
    exact congrArg (fieldsOf enums) lines
  refine (ResultsAlike.of_map_eq fields).map fun fields fields' here => ?_
  obtain ⟨blockName, blockLines, line⟩ := block
  obtain ⟨blockName', blockLines', line'⟩ := block'
  cases name
  refine ⟨?_, redeclarations_alike blockName rfl here⟩
  simp only [unnumbered]
  rw [← byName_unnumbered, here, byName_unnumbered]

end Table

/-! ## Stages -/

namespace Model

theorem interpretTables_alike (rules : NamingRules) (enums : OrderedMap Enumeration)
    {blocks blocks' : List TableBlock}
    (same : blocks.map TableBlock.bare = blocks'.map TableBlock.bare) :
    ResultsAlike (List.Forall₂ Table.Alike) (interpretTables rules enums blocks)
      (interpretTables rules enums blocks') := by
  have related := forall₂_of_map_eq same
  clear same
  induction related with
  | nil => exact .ok .nil
  | cons here _ ih =>
      rw [interpretTables, interpretTables]
      refine (Table.ofBlock_alike rules enums here).bind fun table table' first => ?_
      exact ih.bind fun tables tables' rest => .ok (.cons first rest)

theorem enumWarnings_alike (before : List String) {blocks blocks' : List EnumBlock}
    (same : blocks.map EnumBlock.unnumbered = blocks'.map EnumBlock.unnumbered) :
    List.Forall₂ Diagnostic.Alike (enumWarnings before blocks) (enumWarnings before blocks') := by
  have related := forall₂_of_map_eq same
  clear same
  induction related generalizing before with
  | nil => exact .nil
  | @cons block block' _ _ here _ ih =>
      have names : block.unnumbered.name = block'.unnumbered.name := by rw [here]
      have name : block.name = block'.name := names
      have warning : (enumRedeclared block).Alike (enumRedeclared block') :=
        ⟨rfl, Or.inl (by rw [enumRedeclared, name]; rfl)⟩
      rw [enumWarnings, enumWarnings, ← name]
      refine List.rel_append ?_ (ih _)
      split
      · exact .cons warning .nil
      · exact .nil

theorem tableWarnings_alike (before : List String) {tables tables' : List (Table × List Diagnostic)}
    (related : List.Forall₂ Table.Alike tables tables') :
    List.Forall₂ Diagnostic.Alike (tableWarnings before tables)
      (tableWarnings before tables') := by
  induction related generalizing before with
  | nil => exact .nil
  | @cons read read' _ _ here _ ih =>
      obtain ⟨table, warnings⟩ := read
      obtain ⟨table', warnings'⟩ := read'
      have name : table.name = table'.name := here.name
      have warning : (tableRedeclared table).Alike (tableRedeclared table') :=
        ⟨rfl, Or.inl (by rw [tableRedeclared, name]; rfl)⟩
      rw [tableWarnings, tableWarnings, ← name]
      refine List.rel_append (List.rel_append here.warnings ?_) (ih _)
      split
      · exact .cons warning .nil
      · exact .nil

end Model

namespace Relationship

theorem nameTaken_alike (name : String) (firstLine firstLine' : Int) (r r' : Reference) :
    (nameTaken name firstLine r).Alike (nameTaken name firstLine' r') := by
  have message : ∀ (line : Int) (r : Reference), (nameTaken name line r).message =
      s!"Relationship name '{name}' already used on line " ++ toString line ++
        ("; " ++ "this relationship cannot be created") := by
    intro line r
    simp only [nameTaken, Diagnostic.warning, ← String.append_assoc]
    rfl
  exact ⟨rfl, Or.inr ⟨_, _, firstLine, firstLine', message firstLine r, message firstLine' r'⟩⟩

theorem repeatedNames_alike (rules : NamingRules) {before before' : List (String × Int)}
    {references references' : List Reference}
    (known : before.map Prod.fst = before'.map Prod.fst)
    (same : references.map Reference.unnumbered = references'.map Reference.unnumbered) :
    List.Forall₂ Diagnostic.Alike (repeatedNames rules before references)
      (repeatedNames rules before' references') := by
  have related := forall₂_of_map_eq same
  clear same
  induction related generalizing before before' with
  | nil => exact .nil
  | @cons r r' rest rest' here _ ih =>
      have names : rules.relationshipName r.unnumbered.fromTable r.unnumbered.toTable =
          rules.relationshipName r'.unnumbered.fromTable r'.unnumbered.toTable := by
        rw [here]
      have name : rules.relationshipName r.fromTable r.toTable =
          rules.relationshipName r'.fromTable r'.toTable := names
      have found : before.lookup (rules.relationshipName r.fromTable r.toTable) = none ↔
          before'.lookup (rules.relationshipName r.fromTable r.toTable) = none := by
        rw [lookup_eq_none_iff, lookup_eq_none_iff, known]
      rw [repeatedNames, repeatedNames, ← name]
      cases first : before.lookup (rules.relationshipName r.fromTable r.toTable) with
      | none =>
          rw [found.mp first]
          exact ih (by rw [List.map_cons, List.map_cons, known])
      | some line =>
          cases second : before'.lookup (rules.relationshipName r.fromTable r.toTable) with
          | none =>
              rw [found.mpr second] at first
              cases first
          | some line' => exact .cons (nameTaken_alike _ line line' r r') (ih known)

theorem resolveWarnings_alike (rules : NamingRules) {tables tables' : OrderedMap Table}
    {references references' : List Reference}
    (equal : tables.mapValues Table.unnumbered = tables'.mapValues Table.unnumbered)
    (same : references.map Reference.unnumbered = references'.map Reference.unnumbered) :
    List.Forall₂ Diagnostic.Alike (resolveWarnings rules tables references)
      (resolveWarnings rules tables' references') := by
  refine repeatedNames_alike rules rfl ?_
  rw [← filter_isEffective_unnumbered, ← filter_isEffective_unnumbered, equal, same]

end Relationship

/-! ## Models -/

/-- The two sources say the same in other places, up to blanks around the lines of tables. -/
structure Extract.Alike (e e' : Extract) : Prop where
  enums : e.enums.map EnumBlock.unnumbered = e'.enums.map EnumBlock.unnumbered
  tables : e.tables.map TableBlock.bare = e'.tables.map TableBlock.bare
  references : e.references.map Reference.unnumbered = e'.references.map Reference.unnumbered
  diagnostics : List.Forall₂ Diagnostic.Alike e.diagnostics e'.diagnostics

namespace Model

theorem enumsOf_unnumbered (blocks : List EnumBlock) :
    enumsOf (blocks.map EnumBlock.unnumbered) = enumsOf blocks := by
  rw [enumsOf, enumsOf, List.map_map]
  rfl

theorem enumsOf_eq {e e' : Extract} (extracts : e.Alike e') :
    enumsOf e.enums = enumsOf e'.enums := by
  rw [← enumsOf_unnumbered, extracts.enums, enumsOf_unnumbered]

theorem tablesOf_unnumbered (tables : List Table) :
    tablesOf (tables.map Table.unnumbered) = (tablesOf tables).mapValues Table.unnumbered := by
  rw [tablesOf, tablesOf, OrderedMap.mapValues_ofList, List.map_map, List.map_map]
  rfl

theorem ofTables_alike (rules : NamingRules) {e e' : Extract}
    {interpreted interpreted' : List (Table × List Diagnostic)} (extracts : e.Alike e')
    (related : List.Forall₂ Table.Alike interpreted interpreted') :
    (ofTables rules e interpreted).Alike (ofTables rules e' interpreted') := by
  have declared : (tablesOf (interpreted.map Prod.fst)).mapValues Table.unnumbered =
      (tablesOf (interpreted'.map Prod.fst)).mapValues Table.unnumbered := by
    rw [← tablesOf_unnumbered, ← tablesOf_unnumbered, List.map_map, List.map_map]
    exact congrArg tablesOf (map_of_forall₂ related fun _ _ here => here.table)
  obtain ⟨tables, warnings⟩ :=
    Lookup.inject_unnumbered (tablesOf (interpreted.map Prod.fst)) e.references
  obtain ⟨tables', warnings'⟩ :=
    Lookup.inject_unnumbered (tablesOf (interpreted'.map Prod.fst)) e'.references
  -- Without numbers both injections are the same one.
  rw [declared, extracts.references] at tables warnings
  have injected := tables.symm.trans tables'
  have lookups := Diagnostic.alikes_of_unplaced (warnings.symm.trans warnings')
  constructor
  · simp only [unnumbered, ofTables]
    rw [enumsOf_eq extracts, injected, extracts.references,
      ← Relationship.resolve_unnumbered, ← Relationship.resolveUsers_unnumbered, injected,
      extracts.references, Relationship.resolve_unnumbered, Relationship.resolveUsers_unnumbered]
  · exact List.rel_append (List.rel_append (List.rel_append (List.rel_append extracts.diagnostics
      (enumWarnings_alike [] extracts.enums)) (tableWarnings_alike [] related)) lookups)
      (Relationship.resolveWarnings_alike rules injected extracts.references)

theorem ofExtract_alike (rules : NamingRules) {e e' : Extract} (extracts : e.Alike e') :
    ResultsAlike Alike (ofExtract rules e) (ofExtract rules e') := by
  rw [ofExtract, ofExtract, ← enumsOf_eq extracts]
  exact (interpretTables_alike rules _ extracts.tables).map fun _ _ related =>
    ofTables_alike rules extracts related

/-- Both readings are refused for the same reason, or give like models. -/
inductive ReadAlike : Except SourceError Model → Except SourceError Model → Prop
  | read {m m' : Model} : m.Alike m' → ReadAlike (.ok m) (.ok m')
  | syntaxErrors {errors errors' : List Diagnostic} : List.Forall₂ Diagnostic.Alike errors errors' →
    ReadAlike (.error (.syntaxErrors errors)) (.error (.syntaxErrors errors'))
  | unreadableLength (cause : Text.NumeralError) :
    ReadAlike (.error (.unreadableLength cause)) (.error (.unreadableLength cause))

theorem accept_alike (strict : Bool) {m m' : Model} (alike : m.Alike m') :
    ReadAlike (accept strict m) (accept strict m') := by
  have errors : List.Forall₂ Diagnostic.Alike m.errors m'.errors := by
    refine List.rel_filter (fun d d' here => ?_) alike.diagnostics
    have isError : d.isError = d'.isError := congrArg (· == Severity.error) here.severity
    exact Bool.eq_iff_iff.mp isError
  have empty : m.errors.isEmpty = m'.errors.isEmpty := by
    rw [Bool.eq_iff_iff, List.isEmpty_iff_length_eq_zero, List.isEmpty_iff_length_eq_zero,
      errors.length_eq]
  rw [accept, accept, ← empty]
  split
  · exact .syntaxErrors errors
  · exact .read alike

end Model

theorem Extract.ofFindings_alike {findings findings' : List Finding}
    (alike : List.Forall₂ (Finding.Alike .trimmed) findings findings') :
    (ofFindings findings).Alike (ofFindings findings') where
  enums := map_filterMap_of_forall₂ alike fun x x' here => by cases here <;> rfl
  tables := map_filterMap_of_forall₂ alike fun x x' here => by
    cases here with
    | @table name lines lines' line line' related _ =>
        have bare : lines.map SourceLine.bare = lines'.map SourceLine.bare :=
          map_of_forall₂ related fun _ _ same => by rw [SourceLine.bare, same.trim_eq]; rfl
        simp only [Finding.table?, Option.map_some, TableBlock.bare, bare]
    | _ => rfl
  references := map_filterMap_of_forall₂ alike fun x x' here => by cases here <;> rfl
  diagnostics := by
    refine List.rel_filterMap (fun x x' here => ?_) alike
    cases here with
    | diagnostic => exact .some ⟨rfl, Or.inl rfl⟩
    | _ => exact .none

namespace Model

/-- **Layout.** Texts that differ in the layout of their lines are refused for the same reason, or
are read as models that are equal without the numbers of lines, with the same reported of them. -/
theorem ofText_relaid {text text' : String}
    (relaid : Source.Relaid (Text.splitLines text.toList) (Text.splitLines text'.toList))
    (rules : NamingRules) (strict : Bool) :
    ReadAlike (ofText rules strict text) (ofText rules strict text') := by
  have extracts : (Extract.ofText text).Alike (Extract.ofText text') :=
    Extract.ofFindings_alike relaid.findings_alike
  have results := ofExtract_alike rules extracts
  rw [ofText, ofText]
  generalize ofExtract rules (Extract.ofText text) = result at results ⊢
  generalize ofExtract rules (Extract.ofText text') = result' at results ⊢
  cases results with
  | error cause => exact .unreadableLength cause
  | ok models => exact accept_alike strict models

/-- A header and a field between further blanks, and a blank line behind the brace of the header,
which stands on a line of its own. -/
theorem ofText_relaid_table :
    Source.Relaid (Text.splitLines "Table T\n\x7b\nid GUID [pk]\x7d".toList)
        (Text.splitLines "  Table T\n\x7b\n\t\nid GUID [pk]\x7d \n".toList) ∧
      ReadAlike (ofText {} true "Table T\n\x7b\nid GUID [pk]\x7d")
        (ofText {} true "  Table T\n\x7b\n\t\nid GUID [pk]\x7d \n") := by
  have lines : Text.splitLines "Table T\n\x7b\nid GUID [pk]\x7d".toList =
      ["Table T".toList, ['\x7b'], "id GUID [pk]\x7d".toList] := by
    decide +kernel
  have lines' : Text.splitLines "  Table T\n\x7b\n\t\nid GUID [pk]\x7d \n".toList =
      ["  Table T".toList, ['\x7b'], ['\t'], "id GUID [pk]\x7d ".toList] := by
    decide +kernel
  have header : Source.Relaid ["Table T".toList] ["  Table T".toList] :=
    @Source.Relaid.line [] [] _ _ .nil (by decide +kernel)
  have brace : Source.Relaid ["Table T".toList, ['\x7b']] ["  Table T".toList, ['\x7b']] :=
    @Source.Relaid.line ["Table T".toList] ["  Table T".toList] _ _ header rfl
  have blank : Source.Relaid ["Table T".toList, ['\x7b']]
      ["  Table T".toList, ['\x7b'], ['\t']] :=
    @Source.Relaid.blank _ ["  Table T".toList, ['\x7b']] _ brace (by decide +kernel)
      (by decide +kernel)
  have relaid : Source.Relaid (Text.splitLines "Table T\n\x7b\nid GUID [pk]\x7d".toList)
      (Text.splitLines "  Table T\n\x7b\n\t\nid GUID [pk]\x7d \n".toList) := by
    rw [lines, lines']
    exact @Source.Relaid.line ["Table T".toList, ['\x7b']]
      ["  Table T".toList, ['\x7b'], ['\t']] _ _ blank (by decide +kernel)
  exact ⟨relaid, ofText_relaid relaid {} true⟩

end Model

end ErdDeploy
