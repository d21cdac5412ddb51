import ErdDeploy.Proofs.Schema.Refusal
import ErdDeploy.Proofs.Schema.Warnings

/-!
What decides whether a source is read.

A field line is refused for its text and the names of the enums, whatever their values
(`SourceLine.refused_congr`), and a strict reading refuses a model for the errors of its
statements. So of two sources that name the same enums, have field lines with the same texts and
report as many errors, one is read if the other is (`Model.ofText_of_sameDemands`).

The naming rules have no part in this: neither a line nor a statement is judged by them. Where a
lenient reading gives a model, a strict one gives the same model or refuses the errors of the
statements, and these are the same under all rules (`Model.strict_reading`).
-/

namespace ErdDeploy

/-- Two sources demand the same of a reading: the same names of enums, the same texts of field
lines, and diagnostics of which the same are errors. -/
structure Extract.SameDemands (e e' : Extract) : Prop where
  enums : e'.enums.map EnumBlock.name = e.enums.map EnumBlock.name
  lines : e'.fieldLines.map SourceLine.text = e.fieldLines.map SourceLine.text
  errors : e'.diagnostics.map Diagnostic.isError = e.diagnostics.map Diagnostic.isError

theorem Extract.SameDemands.refl (e : Extract) : e.SameDemands e :=
  ⟨rfl, rfl, rfl⟩

section

variable {enums enums' : OrderedMap Enumeration} {line line' : SourceLine}
  {cause : Text.NumeralError}

theorem SourceLine.refused_congr (names : enums'.names = enums.names)
    (text : line'.text = line.text) : line'.Refused enums' cause ↔ line.Refused enums cause := by
  simp only [SourceLine.Refused, FieldLine.HoldsValue, names, text]

end

namespace Model

variable {rules rules' : NamingRules} {strict : Bool} {text text' : String} {m : Model}

theorem accept_eq_ok_iff {m' : Model} :
    accept strict m = .ok m' ↔ m = m' ∧ (strict = false ∨ m.errors = []) := by
  unfold accept
  cases strict with
  | false => simp
  | true => cases m.errors <;> simp

/-- A source whose tables are interpreted is read if its model is accepted. -/
theorem ofText_eq_accept {interpreted : List (Table × List Diagnostic)}
    (made : interpretTables rules (enumsOf (Extract.ofText text).enums)
      (Extract.ofText text).tables = .ok interpreted) :
    ofText rules strict text =
      accept strict (ofTables rules (Extract.ofText text) interpreted) := by
  rw [ofText, ofExtract, made]
  rfl

/-- The tables of a source are interpreted under any rules if another source that demands the same
is read. -/
theorem exists_interpreted_of_sameDemands {e e' : Extract} (same : e.SameDemands e')
    {interpreted : List (Table × List Diagnostic)}
    (made : interpretTables rules (enumsOf e.enums) e.tables = .ok interpreted) :
    ∃ interpreted', interpretTables rules' (enumsOf e'.enums) e'.tables = .ok interpreted' := by
  have names : (enumsOf e'.enums).names = (enumsOf e.enums).names := by
    rw [names_enumsOf, names_enumsOf, same.enums]
  have passed : ∀ line ∈ e.fieldLines, ∀ cause, ¬ line.Refused (enumsOf e.enums) cause := by
    rcases interpretTables_outcome rules (enumsOf e.enums) e.tables with ⟨cause, failed, -⟩ |
      ⟨-, passed⟩
    · rw [made] at failed
      cases failed
    · exact passed
  rcases interpretTables_outcome rules' (enumsOf e'.enums) e'.tables with
    ⟨cause, -, before, line', after, split, -, refused⟩ | ⟨read, -⟩
  · have member : line' ∈ e'.fieldLines := by
      rw [Extract.fieldLines, split]
      exact List.mem_append_right _ List.mem_cons_self
    have text := List.mem_map_of_mem (f := SourceLine.text) member
    rw [same.lines] at text
    obtain ⟨line, among, alike⟩ := List.mem_map.mp text
    exact absurd ((SourceLine.refused_congr names alike.symm).mp refused) (passed line among cause)
  · exact read

/-- A source is read if another one that demands the same is. -/
theorem ofText_of_sameDemands
    (same : (Extract.ofText text).SameDemands (Extract.ofText text'))
    (read : ofText rules strict text = .ok m) :
    ∃ m', ofText rules strict text' = .ok m' ∧
      m'.enums = enumsOf (Extract.ofText text').enums := by
  obtain ⟨interpreted, made, rfl⟩ := exists_interpreted read
  obtain ⟨interpreted', made'⟩ := exists_interpreted_of_sameDemands same made
  rw [ofText_eq_accept made, accept_eq_ok_iff] at read
  have none : (ofTables rules (Extract.ofText text) interpreted).errors = [] →
      (ofTables rules (Extract.ofText text') interpreted').errors = [] := by
    rw [errors_ofTables made, errors_ofTables made', List.filter_eq_nil_iff, List.filter_eq_nil_iff]
    intro none d member isError
    have among := List.mem_map_of_mem (f := Diagnostic.isError) member
    rw [same.errors] at among
    obtain ⟨other, member', alike⟩ := List.mem_map.mp among
    exact none other member' (alike.trans isError)
  refine ⟨ofTables rules (Extract.ofText text') interpreted', ?_, rfl⟩
  rw [ofText_eq_accept made', accept_eq_ok_iff]
  exact ⟨rfl, read.2.imp_right none⟩

/-! ## Strict readings -/

theorem accept_strict (m : Model) :
    accept true m = if m.errors = [] then .ok m else .error (.syntaxErrors m.errors) := by
  rw [accept, Bool.true_and]
  cases m.errors with
  | nil => rfl
  | cons d errors => rfl

/-- **Strict readings.** Where a lenient reading gives a model, a strict one gives the same model if
it has no errors, and otherwise refuses just these errors in order. Behind the diagnostics of the
statements a model has warnings only, so its errors are those of the statements; and any other
rules give a model, too, with the same errors. -/
theorem strict_reading (read : ofText rules false text = .ok m) :
    ofText rules true text = (if m.errors = [] then .ok m else .error (.syntaxErrors m.errors)) ∧
      (∃ warnings, m.diagnostics = (Extract.ofText text).diagnostics ++ warnings ∧
        ∀ d ∈ warnings, d.isError = false) ∧
      m.errors = (Extract.ofText text).diagnostics.filter Diagnostic.isError ∧
      ∀ rules', ∃ m', ofText rules' false text = .ok m' ∧ m'.errors = m.errors := by
  obtain ⟨interpreted, made, rfl⟩ := exists_interpreted read
  refine ⟨?_, exists_warnings made, errors_ofTables made, fun rules' => ?_⟩
  · rw [ofText_eq_accept made, accept_strict]
  · have read' : ∃ interpreted', interpretTables rules' (enumsOf (Extract.ofText text).enums)
        (Extract.ofText text).tables = .ok interpreted' :=
      exists_interpreted_of_sameDemands (.refl _) made
    obtain ⟨interpreted', made'⟩ := read'
    refine ⟨ofTables rules' (Extract.ofText text) interpreted', ?_, ?_⟩
    · rw [ofText_eq_accept made', accept_eq_ok_iff]
      exact ⟨rfl, Or.inl rfl⟩
    · rw [errors_ofTables made', errors_ofTables made]

/-- A block without a name, a line that is no statement and a reference to a table that is not
there: one error between two kinds of warnings. -/
def namelessBlock : String :=
  "Tables\nTable \x7b\nx Int\n\x7d\nTable T \x7b\nid GUID [pk]\n\x7d\nRef: T.id < U.tid"

theorem strict_reading_of_namelessBlock :
    ∃ m, ofText {} false namelessBlock = .ok m ∧
      m.diagnostics.map Diagnostic.isError = [false, true, false] ∧
      ofText {} true namelessBlock =
        (if m.errors = [] then .ok m else .error (.syntaxErrors m.errors)) ∧
      (∃ warnings, m.diagnostics = (Extract.ofText namelessBlock).diagnostics ++ warnings ∧
        ∀ d ∈ warnings, d.isError = false) ∧
      m.errors = (Extract.ofText namelessBlock).diagnostics.filter Diagnostic.isError ∧
      ∀ rules', ∃ m', ofText rules' false namelessBlock = .ok m' ∧ m'.errors = m.errors := by
  have computed : (ofText {} false namelessBlock).toOption.map
      (fun m => m.diagnostics.map Diagnostic.isError) = some [false, true, false] := by
    decide +kernel
  obtain ⟨m, read, errors⟩ := exists_of_toOption_map computed
  exact ⟨m, read, errors, strict_reading read⟩

end Model

end ErdDeploy
