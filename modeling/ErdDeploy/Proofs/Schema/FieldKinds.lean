import ErdDeploy.Proofs.Schema.Origin
import ErdDeploy.Proofs.Schema.TypeTokens

/-!
What the kind of a field says about its other facts.

The type of a field says what else is known of it, as far as the kind asks for it: a
choice has the values of the enum that its type names, a key or a scalar the column type
and the length that its type is read as, and a reference neither (`Field.FitsKind`).

Interpreting a line makes a field whose facts fit, and taking a field over as a lookup
drops what does not fit any longer. So the facts of every field of a model fit, whichever
references came on the way (`Model.fields_fit`).
-/

namespace ErdDeploy

/-- The facts of a field fit its kind, where the enums and the names of the tables are given. -/
structure Field.FitsKind (enums : OrderedMap Enumeration) (tables : List String) (f : Field) :
    Prop where
  choice : f.isEnum = true → f.enumName = some f.typeToken ∧
    enums.get? f.typeToken = some ⟨f.typeToken, f.enumValues⟩ ∧
    f.columnType = none ∧ f.maxLength = none ∧ f.lookupTable = none
  value : f.isPrimaryKey = true ∨ f.kind = .scalar →
    (∃ type, TypeToken.read f.typeToken.toList = .ok (type, f.maxLength) ∧
      f.columnType = some type ∧ (f.maxLength ≠ none → type = .string ∨ type = .identifier)) ∧
    f.enumName = none ∧ f.enumValues = [] ∧ f.lookupTable = none ∧ f.lookupField = none
  deferred : f.isDeferred = true →
    f.columnType = none ∧ f.maxLength = none ∧ f.enumName = none ∧ f.enumValues = []
  target : ∀ table, f.lookupTable = some table → f.isLookup = true ∧ table ∈ tables

section

variable {enums : OrderedMap Enumeration} {tables : List String}

/-! ## Fields as they are made -/

/-- A field that holds a value has what its type is read as. -/
theorem Field.fitsKind_value {name typeToken : String} {kind : FieldKind} {isRequired : Bool}
    {line : Int} {type : ColumnType} {length : Option Int}
    (holds : kind = .primaryKey ∨ kind = .scalar)
    (read : TypeToken.read typeToken.toList = .ok (type, length)) :
    Field.FitsKind enums tables
      ⟨name, typeToken, kind, isRequired, some type, length, [], none, line⟩ := by
  have sized : length ≠ none → type = .string ∨ type = .identifier := by
    intro some
    obtain ⟨n, rfl⟩ := Option.ne_none_iff_exists'.mp some
    exact ColumnType.hasLength_iff.mp (TypeToken.hasLength_of_read read)
  rcases holds with rfl | rfl
  · exact ⟨nofun, fun _ => ⟨⟨type, read, rfl, sized⟩, rfl, rfl, rfl, rfl⟩, nofun, nofun⟩
  · exact ⟨nofun, fun _ => ⟨⟨type, read, rfl, sized⟩, rfl, rfl, rfl, rfl⟩, nofun, nofun⟩

/-- A choice has the values of the enum that its type names. -/
theorem Field.fitsKind_choice {name typeToken : String} {isRequired : Bool} {line : Int}
    {enum : Enumeration} (found : enums.get? typeToken = some enum) (own : enum.name = typeToken) :
    Field.FitsKind enums tables
      ⟨name, typeToken, .enum enum.name, isRequired, none, none, enum.values, none, line⟩ := by
  subst own
  exact ⟨fun _ => ⟨rfl, found, rfl, rfl, rfl⟩, (Or.elim · nofun nofun), nofun, nofun⟩

/-- A lookup has nothing but the field that it points at. -/
theorem Field.fitsKind_lookup {name typeToken : String} {isRequired : Bool} {line : Int}
    {target field : Option String} (known : ∀ table ∈ target, table ∈ tables) :
    Field.FitsKind enums tables
      ⟨name, typeToken, .lookup target, isRequired, none, none, [], field, line⟩ :=
  ⟨nofun, (Or.elim · nofun nofun), fun _ => ⟨rfl, rfl, rfl, rfl⟩,
    fun table points => ⟨rfl, known table points⟩⟩

theorem Field.fitsKind_userReference {name typeToken : String} {isRequired : Bool} {line : Int} :
    Field.FitsKind enums tables
      ⟨name, typeToken, .userReference, isRequired, none, none, [], none, line⟩ :=
  ⟨nofun, (Or.elim · nofun nofun), fun _ => ⟨rfl, rfl, rfl, rfl⟩, nofun⟩

/-- A line declares a field whose facts fit its kind, if the enums are kept under their own
names. -/
theorem FieldLine.fitsKind_of_interpret {line : SourceLine} {f : Field}
    (own : ∀ name enum, enums.get? name = some enum → enum.name = name)
    (made : interpret enums line = .ok (some f)) : f.FitsKind enums tables := by
  obtain ⟨parts, -, makes⟩ := makes_of_interpret made
  cases makes with
  | value holds read => exact Field.fitsKind_value holds read
  | choice found => exact Field.fitsKind_choice found (own _ _ found)
  | lookup => exact Field.fitsKind_lookup nofun
  | userReference => exact Field.fitsKind_userReference

/-- References to known tables keep the facts of all fields fitting. -/
theorem Lookup.fitsKind_putAll {fields : OrderedMap Field} (own : OwnNames fields)
    {references : List Reference} (known : ∀ r ∈ references, r.fromTable ∈ tables)
    (before : ∀ name f, fields.get? name = some f → f.FitsKind enums tables) :
    ∀ name f, (putAll references fields).get? name = some f → f.FitsKind enums tables := by
  have points : ∀ r ∈ references, ∀ table ∈ some r.fromTable, table ∈ tables := by
    rintro r member table ⟨⟩
    exact known r member
  intro name
  exact forall_get?_putAll own references
    (fun r member => Field.fitsKind_lookup (points r member))
    (fun r member field _ => Field.fitsKind_lookup (points r member)) name (before name)

end

/-! ## Fields of a model -/

namespace Model

theorem fitsKind_of_ofText {rules : NamingRules} {strict : Bool} {text : String} {m : Model}
    (read : ofText rules strict text = .ok m) {table : String} {t : Table}
    (found : m.tables.get? table = some t) :
    ∀ name f, t.fields.get? name = some f → f.FitsKind m.enums m.tables.names := by
  obtain ⟨declared, made, origin⟩ := origin_of_ofText read
  obtain ⟨interpreted, -, ofTables⟩ := exists_interpreted read
  have enums : m.enums = enumsOf (Extract.ofText text).enums := by rw [ofTables]; rfl
  obtain ⟨before, declaredAt, same⟩ := origin.of_get? found
  have own := (origin.table table before declaredAt).2.ownNames
  obtain ⟨-, block, -, warnings, ofBlock⟩ := exists_block_of_declaredTables made declaredAt
  have fits : ∀ name f, before.fields.get? name = some f →
      f.FitsKind m.enums m.tables.names := by
    intro name f stored
    obtain ⟨line, interpreted⟩ := Table.exists_line_of_ofBlock ofBlock stored
    rw [enums]
    exact FieldLine.fitsKind_of_interpret (fun _ _ => enum_name_of_enumsOf) interpreted
  have known : ∀ r ∈ Lookup.into m.tables table m.references, r.fromTable ∈ m.tables.names := by
    intro r member
    have effective := (Lookup.mem_into.mp member).2.1
    simp only [Relationship.isEffective, Bool.and_eq_true,
      OrderedMap.contains_iff_mem_names] at effective
    exact effective.1.2
  rw [same]
  exact Lookup.fitsKind_putAll own known fits

/-- **Kinds of fields.** Every field of every table of a model is stored under its own name, and
its facts fit its kind. -/
theorem fields_fit {rules : NamingRules} {strict : Bool} {text : String} {m : Model}
    (read : ofText rules strict text = .ok m) :
    ∀ table t, m.tables.get? table = some t → ∀ name f, t.fields.get? name = some f →
      f.name = name ∧ f.FitsKind m.enums m.tables.names := by
  obtain ⟨declared, -, origin⟩ := origin_of_ofText read
  intro table t found name f stored
  exact ⟨origin.ownNames found name f stored, fitsKind_of_ofText read found name f stored⟩

/-- A choice that a reference takes over, one that stays, a person and a key with a length. -/
def takenOver : String :=
  "Enum S \x7b\nA\nB\n\x7d\nTable C \x7b\nid GUID(8) [pk]\nowner Person\n\x7d\n" ++
    "Table I \x7b\nid GUID [pk]\ncid S\ns S\n\x7d\nRef: C.id < I.s\nRef: C.id < I.b"

theorem fields_fit_taken_over :
    ∃ m, ofText {} true takenOver = .ok m ∧
      ∀ table t, m.tables.get? table = some t → ∀ name f, t.fields.get? name = some f →
        f.name = name ∧ f.FitsKind m.enums m.tables.names := by
  have readable : (ofText {} true takenOver).isOk = true := by decide +kernel
  obtain ⟨m, read⟩ := exists_of_isOk readable
  exact ⟨m, read, fields_fit read⟩

end Model

end ErdDeploy
