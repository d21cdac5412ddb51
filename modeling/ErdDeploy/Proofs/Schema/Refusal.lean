import ErdDeploy.Proofs.Data.OrderedMap
import ErdDeploy.Proofs.Schema.TypeTokens
import ErdDeploy.Schema.Model
import ErdDeploy.Schema.Record

/-!
Which sources are refused.

The only thing that a lenient reading stumbles over is the length of a field that holds
a value: digits that are no number (`SourceLine.Refused`). Tables are read line by line,
so the first refused line of the source decides what is reported
(`Model.interpretTables_outcome`). Every other source is read; a strict reading then
refuses it exactly if the model has errors (`Model.ofText_outcome`).

So malformed statements, field lines and references never keep a source from being read,
but a length of digits without a place value does (`Model.not_readsAll`).
-/

namespace ErdDeploy

/-! ## Refused lines -/

namespace FieldLine

variable {enums : OrderedMap Enumeration} {parts : FieldLine} {cause : Text.NumeralError}

/-- The parts of a line declare a field that holds a value, so that its type is read. -/
def HoldsValue (enums : OrderedMap Enumeration) (parts : FieldLine) : Prop :=
  marksKey parts.marks = true ∨
    String.ofList parts.typeToken ∉ enums.names ∧
      String.ofList parts.typeToken ≠ lookupType ∧ String.ofList parts.typeToken ≠ personType

theorem valueField_eq_error_iff {name typeToken : String} {kind : FieldKind} {isRequired : Bool}
    {line : Int} : valueField name typeToken kind isRequired line = .error cause ↔
      TypeToken.Refused typeToken.toList cause := by
  rw [valueField, map_eq_error_iff, TypeToken.read_eq_error_iff]

/-- Parts are refused exactly if they declare a value whose type is refused. -/
theorem toField_eq_error_iff {line : Int} : parts.toField enums line = .error cause ↔
    parts.HoldsValue enums ∧ TypeToken.Refused parts.typeToken cause := by
  unfold toField HoldsValue
  simp only
  split
  · next key =>
    rw [valueField_eq_error_iff, String.toList_ofList]
    simp [key]
  · next noKey =>
    split
    · next values found =>
      have known := OrderedMap.mem_names_of_get? found
      simp [noKey, known]
    · next unknown =>
      rw [OrderedMap.get?_eq_none_iff] at unknown
      split
      · next lookup => simp [noKey, lookup]
      · next noLookup =>
        split
        · next person => simp [noKey, person]
        · next noPerson =>
          rw [valueField_eq_error_iff, String.toList_ofList]
          simp [noKey, unknown, noLookup, noPerson]

end FieldLine

/-- A line is refused for a cause: it declares a field that holds a value, and the length in its
type is not read. -/
def SourceLine.Refused (enums : OrderedMap Enumeration) (line : SourceLine)
    (cause : Text.NumeralError) : Prop :=
  ∃ parts, FieldLine.split? line.text = some parts ∧ parts.HoldsValue enums ∧
    TypeToken.Refused parts.typeToken cause

/-- The first refused line among some lines is refused for a cause. -/
def FirstRefused (enums : OrderedMap Enumeration) (lines : List SourceLine)
    (cause : Text.NumeralError) : Prop :=
  ∃ before line after, lines = before ++ line :: after ∧
    (∀ earlier ∈ before, ∀ other, ¬ earlier.Refused enums other) ∧ line.Refused enums cause

section

variable {enums : OrderedMap Enumeration} {cause : Text.NumeralError}

theorem FieldLine.interpret_eq_error_iff {line : SourceLine} :
    interpret enums line = .error cause ↔ line.Refused enums cause := by
  unfold interpret SourceLine.Refused
  cases split? line.text with
  | none => simp
  | some parts => simp only [map_eq_error_iff, toField_eq_error_iff, Option.some.injEq,
      exists_eq_left']

theorem FirstRefused.append {lines : List SourceLine} (first : FirstRefused enums lines cause)
    (more : List SourceLine) : FirstRefused enums (lines ++ more) cause := by
  obtain ⟨before, line, after, rfl, passed, refused⟩ := first
  exact ⟨before, line, after ++ more, by simp, passed, refused⟩

theorem FirstRefused.behind {lines : List SourceLine} (first : FirstRefused enums lines cause)
    (front : List SourceLine) (passed : ∀ line ∈ front, ∀ other, ¬ line.Refused enums other) :
    FirstRefused enums (front ++ lines) cause := by
  obtain ⟨before, line, after, rfl, passed', refused⟩ := first
  refine ⟨front ++ before, line, after, by simp, ?_, refused⟩
  intro earlier member
  rcases List.mem_append.mp member with inFront | later
  · exact passed earlier inFront
  · exact passed' earlier later

end

/-! ## Reading line by line -/

/-- The fields of some lines are read, or the first refused line decides. -/
theorem Table.fieldsOf_outcome (enums : OrderedMap Enumeration) (lines : List SourceLine) :
    (∃ cause, fieldsOf enums lines = .error cause ∧ FirstRefused enums lines cause) ∨
      (∃ fields, fieldsOf enums lines = .ok fields) ∧
        ∀ line ∈ lines, ∀ cause, ¬ line.Refused enums cause := by
  induction lines with
  | nil => exact Or.inr ⟨⟨[], rfl⟩, by simp⟩
  | cons line lines ih =>
      rw [fieldsOf]
      cases here : FieldLine.interpret enums line with
      | error cause =>
          have refused := FieldLine.interpret_eq_error_iff.mp here
          exact Or.inl ⟨cause, rfl, [], line, lines, rfl, by simp, refused⟩
      | ok field =>
          have passed : ∀ cause, ¬ line.Refused enums cause := by
            intro cause refused
            rw [FieldLine.interpret_eq_error_iff.mpr refused] at here
            cases here
          rcases ih with ⟨cause, failed, first⟩ | ⟨⟨fields, made⟩, others⟩
          · rw [failed]
            exact Or.inl ⟨cause, rfl, first.behind [line] (by simpa using passed)⟩
          · rw [made]
            exact Or.inr ⟨⟨_, rfl⟩, List.forall_mem_cons.mpr ⟨passed, others⟩⟩

/-- The tables of some blocks are read, or the first refused line of all blocks decides. -/
theorem Model.interpretTables_outcome (rules : NamingRules) (enums : OrderedMap Enumeration)
    (blocks : List TableBlock) :
    (∃ cause, interpretTables rules enums blocks = .error cause ∧
        FirstRefused enums (blocks.flatMap TableBlock.lines) cause) ∨
      (∃ tables, interpretTables rules enums blocks = .ok tables) ∧
        ∀ line ∈ blocks.flatMap TableBlock.lines, ∀ cause, ¬ line.Refused enums cause := by
  induction blocks with
  | nil => exact Or.inr ⟨⟨[], rfl⟩, by simp⟩
  | cons block blocks ih =>
      rw [interpretTables, Table.ofBlock, List.flatMap_cons]
      rcases Table.fieldsOf_outcome enums block.lines with
        ⟨cause, failed, first⟩ | ⟨⟨fields, made⟩, passed⟩
      · rw [failed]
        exact Or.inl ⟨cause, rfl, first.append _⟩
      · rw [made]
        rcases ih with ⟨cause, failed, first⟩ | ⟨⟨tables, read⟩, others⟩
        · rw [failed]
          exact Or.inl ⟨cause, rfl, first.behind _ passed⟩
        · rw [read]
          exact Or.inr ⟨⟨_, rfl⟩, List.forall_mem_append.mpr ⟨passed, others⟩⟩

/-! ## The facts of a field -/

/-- The word for a kind, among those of plain data. -/
def FieldKind.toWord : FieldKind → FieldKindWord
  | .primaryKey => .primaryKey
  | .enum _ => .enum
  | .lookup _ => .lookup
  | .userReference => .userReference
  | .scalar => .scalar

/-- All facts of a field, beside its kind. -/
def Field.facts (f : Field) : FieldFacts :=
  ⟨f.name, f.typeToken, f.kind.toWord, f.isRequired, f.columnType, f.maxLength, f.enumName,
    f.enumValues, f.lookupTable, f.lookupField, f.line⟩

/-- The facts of a field never contradict its kind. -/
theorem Field.toField_facts (f : Field) : f.facts.toField = .valid f := by
  obtain ⟨name, typeToken, kind, isRequired, columnType, maxLength, values, target, line⟩ := f
  cases kind with
  | primaryKey => rfl
  | enum name => rfl
  | lookup table => rfl
  | userReference => rfl
  | scalar => rfl

/-! ## Outcomes -/

/-- The lines of all table blocks of a source, in order. -/
def Extract.fieldLines (extract : Extract) : List SourceLine :=
  extract.tables.flatMap TableBlock.lines

namespace Model

/-- Not every text is read: this length has a digit without a place value. -/
theorem not_readsAll :
    ¬ ∀ (rules : NamingRules) (text : String), ∃ m, ofText rules false text = .ok m := by
  intro reads
  have refused : (ofText {} false "Table T \x7b\nid GUID [pk]\nname String(²)\n\x7d").isOk =
      false := by
    decide +kernel
  obtain ⟨m, read⟩ := reads {} "Table T \x7b\nid GUID [pk]\nname String(²)\n\x7d"
  rw [read] at refused
  cases refused

/-- **Outcomes of reading.** Either the first refused field line decides, strict or not. Or no field
line is refused: then a lenient reading gives a model, whose fields all have facts that fit their
kind, and a strict reading gives the same model, unless it refuses its errors. -/
theorem ofText_outcome (rules : NamingRules) (text : String) :
    (∃ cause, FirstRefused (enumsOf (Extract.ofText text).enums)
        (Extract.ofText text).fieldLines cause ∧
      ∀ strict, ofText rules strict text = .error (.unreadableLength cause)) ∨
    (∀ line ∈ (Extract.ofText text).fieldLines, ∀ cause,
      ¬ line.Refused (enumsOf (Extract.ofText text).enums) cause) ∧
    ∃ m, ofText rules false text = .ok m ∧
      (∀ t ∈ m.tables.values, ∀ f ∈ t.fields.values, f.facts.toField = .valid f) ∧
      ofText rules true text =
        if m.errors = [] then .ok m else .error (.syntaxErrors m.errors) := by
  rcases interpretTables_outcome rules (enumsOf (Extract.ofText text).enums)
    (Extract.ofText text).tables with ⟨cause, failed, first⟩ | ⟨⟨tables, made⟩, passed⟩
  · refine Or.inl ⟨cause, first, fun strict => ?_⟩
    rw [ofText, ofExtract, failed]
    rfl
  · have accepted : ∀ strict, ofText rules strict text =
        accept strict (ofTables rules (Extract.ofText text) tables) := by
      intro strict
      rw [ofText, ofExtract, made]
      rfl
    refine Or.inr ⟨passed, ofTables rules (Extract.ofText text) tables, accepted false,
      fun t _ f _ => f.toField_facts, ?_⟩
    rw [accepted, accept, Bool.true_and]
    cases (ofTables rules (Extract.ofText text) tables).errors with
    | nil => rfl
    | cons d errors => rfl

end Model

end ErdDeploy
