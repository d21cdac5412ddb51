import ErdDeploy.Proofs.Data.Lists
import ErdDeploy.Proofs.Schema.Requiredness
import ErdDeploy.Proofs.Schema.Warnings
import ErdDeploy.Proofs.Source.Parts
import ErdDeploy.Proofs.Source.Succession

/-!
Names of relationships that are taken.

When references are resolved, the line of the first one is kept for each name, and every later
one of the name is warned about with that line (`Relationship.mem_repeatedNames_iff`). The name is
made of both tables, so references between other tables may come to it as well.

No two references of a source stand on one line. So a warning about a taken name is about
the effective reference on its line, and `Model.nameTaken_iff` says which references have one.
-/

namespace ErdDeploy

/-- A warning says that the name of a relationship is taken. It begins with these words; a
diagnostic that quotes the source may hold them elsewhere. -/
def Diagnostic.TellsNameTaken (d : Diagnostic) : Prop :=
  d.isError = false ∧ "Relationship name '".toList <+: d.message.toList ∧
    "' already used on line ".toList <:+: d.message.toList

/-! ## Which warnings these are -/

section

variable {d : Diagnostic}

theorem Relationship.tellsNameTaken_nameTaken (name : String) (line : Int) (r : Reference) :
    (nameTaken name line r).TellsNameTaken := by
  have message : (nameTaken name line r).message.toList = "Relationship name '".toList ++
      name.toList ++ "' already used on line ".toList ++
        (toString line ++ "; " ++ "this relationship cannot be created").toList := by
    simp [nameTaken, Diagnostic.warning, toString]
  refine ⟨rfl, ?_, ?_⟩
  · rw [message, List.append_assoc, List.append_assoc]
    exact List.prefix_append _ _
  · rw [message]
    exact List.infix_append _ _ _

theorem Mode.Notice.not_tellsNameTaken (notice : Notice d) : ¬ d.TellsNameTaken := by
  rintro ⟨-, start, -⟩
  cases notice with
  | unnamed block => cases kind : block.kind <;> simp [kind, BlockKind.title] at start
  | _ => simp [OpenBlock.missingBrace, nestedIgnored, Mode.unrecognized] at start

theorem Extract.not_tellsNameTaken {text : String} (member : d ∈ (ofText text).diagnostics) :
    ¬ d.TellsNameTaken := by
  rcases Source.cases_of_mem_diagnostics member with notice | ⟨-, start, rfl⟩
  · exact notice.not_tellsNameTaken
  · rintro ⟨nonsense, -⟩
    cases nonsense

theorem RedeclarationWarning.not_tellsNameTaken (warning : RedeclarationWarning d) :
    ¬ d.TellsNameTaken := by
  rintro ⟨-, start, -⟩
  cases warning with
  | enum => simp [Model.enumRedeclared, Diagnostic.warning, toString] at start
  | table => simp [Model.tableRedeclared, Diagnostic.warning, toString] at start
  | field => simp [Table.fieldRedeclared, Diagnostic.warning, toString] at start

theorem Lookup.not_tellsNameTaken {tables : OrderedMap Table} {references : List Reference}
    (member : d ∈ (inject tables references).2) : ¬ d.TellsNameTaken := by
  rintro ⟨-, start, -⟩
  rcases cases_of_mem_inject member with ⟨r, key, rfl⟩ | ⟨r, names, rfl⟩
  · simp [keyKept, Diagnostic.warning, toString] at start
  · simp [unknownTables, Diagnostic.warning] at start

end

/-! ## Whom they are about -/

section

variable {rules : NamingRules} {past behind references : List Reference} {r : Reference}
  {d : Diagnostic}

theorem Relationship.exists_firstOf_iff {name : String} :
    (∃ first, firstOf rules name references = some first) ↔
      name ∈ references.map (nameOf rules) := by
  rw [← Option.isSome_iff_exists, firstOf, List.find?_isSome, List.mem_map]
  simp only [decide_eq_true_eq]

/-- Among references on lines of their own, the warning on the line of one is about that one. -/
theorem Relationship.nameTaken_iff (lines : references.Pairwise (·.line < ·.line))
    (split : references = past ++ r :: behind) :
    d ∈ repeatedNames rules [] references ∧ d.line = r.line ↔
      ∃ first, firstOf rules (nameOf rules r) past = some first ∧
        d = nameTaken (nameOf rules r) first.line r := by
  have kept : ∀ past name line, keptLine rules [] past name = some line ↔
      ∃ first, firstOf rules name past = some first ∧ first.line = line := by
    intro past name line
    rw [keptLine, List.lookup_nil, Option.none_or, Option.map_eq_some_iff]
  have front : ∀ past r behind, references = past ++ r :: behind →
      ∀ other ∈ past, other.line ≠ r.line := by
    intro past r behind split other among
    rw [split, List.pairwise_append] at lines
    have less := lines.2.2 other among r List.mem_cons_self
    omega
  constructor
  · rintro ⟨member, onLine⟩
    obtain ⟨past', r', behind', line, split', found, rfl⟩ := mem_repeatedNames_iff.mp member
    have onLine : r'.line = r.line := onLine
    -- Both references stand on one line, so they are the same one.
    have before := front past r behind split
    have before' := front past' r' behind' split'
    rw [onLine] at before'
    have same := eq_of_append_cons_eq (split.symm.trans split') before before' rfl onLine
    obtain ⟨rfl, rfl⟩ := List.cons_eq_cons.mp same
    obtain rfl := List.append_cancel_right (split.symm.trans split')
    obtain ⟨first, taken, rfl⟩ := (kept _ _ _).mp found
    exact ⟨first, taken, rfl⟩
  · rintro ⟨first, taken, rfl⟩
    have found := (kept _ _ _).mpr ⟨first, taken, rfl⟩
    exact ⟨mem_repeatedNames_iff.mpr ⟨past, r, behind, _, split, found, rfl⟩, rfl⟩

namespace Model

variable {text : String} {interpreted : List (Table × List Diagnostic)}

/-- Only resolving references warns in these words. -/
theorem tellsNameTaken_iff (made : interpretTables rules (enumsOf (Extract.ofText text).enums)
    (Extract.ofText text).tables = .ok interpreted) :
    d ∈ (ofTables rules (Extract.ofText text) interpreted).diagnostics ∧ d.TellsNameTaken ↔
      d ∈ Relationship.repeatedNames rules []
        (ofTables rules (Extract.ofText text) interpreted).effective := by
  rw [diagnostics_split, List.mem_append, List.mem_append, referenceWarnings, List.mem_append]
  constructor
  · rintro ⟨extracted | redeclared | injected | resolved, tells⟩
    · exact absurd tells (Extract.not_tellsNameTaken extracted)
    · exact absurd tells (redeclarationWarning_of_mem made redeclared).not_tellsNameTaken
    · exact absurd tells (Lookup.not_tellsNameTaken injected)
    · exact resolved
  · intro member
    obtain ⟨-, r, -, line, -, -, rfl⟩ := Relationship.mem_repeatedNames_iff.mp member
    have tells := Relationship.tellsNameTaken_nameTaken (Relationship.nameOf rules r) line r
    exact ⟨Or.inr (Or.inr (Or.inr member)), tells⟩

variable {strict : Bool} {m : Model}

/-- The effective references of a source follow their lines. -/
theorem effective_pairwise (read : ofText rules strict text = .ok m) :
    m.effective.Pairwise (·.line < ·.line) := by
  obtain ⟨interpreted, -, rfl⟩ := exists_interpreted read
  have successive := (inOrder_findings (Text.splitLines text.toList)).successive
  exact successive.references.filter _

/-- The warning on the line of an effective reference says that an earlier one has its name, and
names the line of the first of these. -/
theorem nameTaken_iff (read : ofText rules strict text = .ok m)
    (split : m.effective = past ++ r :: behind) :
    (d ∈ m.diagnostics ∧ d.TellsNameTaken) ∧ d.line = r.line ↔
      ∃ first, Relationship.firstOf rules (Relationship.nameOf rules r) past = some first ∧
        d = Relationship.nameTaken (Relationship.nameOf rules r) first.line r := by
  have lines := effective_pairwise read
  obtain ⟨interpreted, made, rfl⟩ := exists_interpreted read
  rw [tellsNameTaken_iff made]
  exact Relationship.nameTaken_iff lines split

/-- There are such warnings of effective references only, and each names the line of the first one
of its name. -/
theorem exists_of_tellsNameTaken (read : ofText rules strict text = .ok m)
    (member : d ∈ m.diagnostics) (tells : d.TellsNameTaken) :
    ∃ r ∈ m.effective, ∃ first,
      Relationship.firstOf rules (Relationship.nameOf rules r) m.effective = some first ∧
        d = Relationship.nameTaken (Relationship.nameOf rules r) first.line r := by
  have resolved : ∃ past r behind, m.effective = past ++ r :: behind ∧ d.line = r.line := by
    obtain ⟨interpreted, made, rfl⟩ := exists_interpreted read
    have resolved := (tellsNameTaken_iff made).mp ⟨member, tells⟩
    obtain ⟨past, r, behind, _, split, -, rfl⟩ := Relationship.mem_repeatedNames_iff.mp resolved
    exact ⟨past, r, behind, split, rfl⟩
  obtain ⟨past, r, behind, split, onLine⟩ := resolved
  obtain ⟨first, taken, same⟩ := (nameTaken_iff read split).mp ⟨⟨member, tells⟩, onLine⟩
  refine ⟨r, ?_, first, ?_, same⟩
  · rw [split]
    exact List.mem_append_right _ List.mem_cons_self
  · rw [split, Relationship.firstOf, List.find?_append]
    rw [Relationship.firstOf] at taken
    rw [taken, Option.some_or]

end Model

end

end ErdDeploy
