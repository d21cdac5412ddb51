import ErdDeploy.Proofs.Data.Lists
import ErdDeploy.Proofs.Source.Concatenation
import ErdDeploy.Proofs.Source.HollowLines

/-!
Statements without the numbers of their lines.

Two sources say the same if their statements are equal without numbers
(`Extract.SaysSame`): that does not see where the statements stand, nor what is reported.
The likeness `Likeness.anywhere` finds such sources, as it only lets numbers differ
(`saysSame_of_statements`).
-/

namespace ErdDeploy

def EnumBlock.unnumbered (block : EnumBlock) : EnumBlock :=
  { block with line := 0 }

def TableBlock.unnumbered (block : TableBlock) : TableBlock :=
  ⟨block.name, block.lines.map fun line => ⟨0, line.text⟩, 0⟩

def Reference.unnumbered (r : Reference) : Reference :=
  { r with line := 0 }

namespace Extract

/-- The two sources say the same in the same order, on lines with any numbers: the same enums with
the same values, the same tables with the same texts in their bodies, and the same references. -/
structure SaysSame (e e' : Extract) : Prop where
  enums : e.enums.map EnumBlock.unnumbered = e'.enums.map EnumBlock.unnumbered
  tables : e.tables.map TableBlock.unnumbered = e'.tables.map TableBlock.unnumbered
  references : e.references.map Reference.unnumbered = e'.references.map Reference.unnumbered

namespace SaysSame

theorem refl (e : Extract) : e.SaysSame e :=
  ⟨rfl, rfl, rfl⟩

theorem symm {e e' : Extract} (same : e.SaysSame e') : e'.SaysSame e :=
  ⟨same.enums.symm, same.tables.symm, same.references.symm⟩

theorem append {e e' f f' : Extract} (first : e.SaysSame e') (more : f.SaysSame f') :
    (e ++ f).SaysSame (e' ++ f') where
  enums := by
    change (e.enums ++ f.enums).map _ = (e'.enums ++ f'.enums).map _
    rw [List.map_append, List.map_append, first.enums, more.enums]
  tables := by
    change (e.tables ++ f.tables).map _ = (e'.tables ++ f'.tables).map _
    rw [List.map_append, List.map_append, first.tables, more.tables]
  references := by
    change (e.references ++ f.references).map _ = (e'.references ++ f'.references).map _
    rw [List.map_append, List.map_append, first.references, more.references]

/-- What stands further down says the same. -/
theorem shift (e : Extract) (offset offset' : Int) :
    (e.shift offset).SaysSame (e.shift offset') := by
  refine ⟨?_, ?_, ?_⟩
  all_goals simp only [Extract.shift, List.map_map]
  · rfl
  · refine List.map_congr_left fun block _ => ?_
    simp [TableBlock.unnumbered, SourceLine.shift]
  · rfl

end SaysSame

/-- A view of the statements of a source does not see diagnostics. -/
theorem filterMap_statements {α : Type} {view : Finding → Option α}
    (statements : ∀ d, view (.diagnostic d) = none) (findings : List Finding) :
    (findings.filter Finding.isStatement).filterMap view = findings.filterMap view := by
  rw [List.filterMap_filter]
  refine List.filterMap_congr fun finding _ => ?_
  cases finding with
  | diagnostic d => exact (statements d).symm
  | _ => rfl

/-- The same statements on lines with any numbers say the same. -/
theorem saysSame_of_statements {findings findings' : List Finding}
    (alike : List.Forall₂ (Finding.Alike .anywhere) (findings.filter Finding.isStatement)
      (findings'.filter Finding.isStatement)) :
    (ofFindings findings).SaysSame (ofFindings findings') := by
  have views : ∀ {α : Type} (view : Finding → Option α) (unnumbered : α → α),
      (∀ d, view (.diagnostic d) = none) →
      (∀ x x', Finding.Alike .anywhere x x' →
        (view x).map unnumbered = (view x').map unnumbered) →
      (findings.filterMap view).map unnumbered = (findings'.filterMap view).map unnumbered := by
    intro α view unnumbered statements agrees
    rw [← filterMap_statements statements findings, ← filterMap_statements statements findings']
    exact map_filterMap_of_forall₂ alike agrees
  refine ⟨views _ _ (fun _ => rfl) ?_, views _ _ (fun _ => rfl) ?_, views _ _ (fun _ => rfl) ?_⟩
  · intro x x' here
    cases here <;> rfl
  · intro x x' here
    cases here with
    | @table name lines lines' line line' related number =>
        have texts : (lines.map fun line => (⟨0, line.text⟩ : SourceLine)) =
            lines'.map fun line => ⟨0, line.text⟩ := by
          refine map_of_forall₂ related fun line line' same => ?_
          rw [show line'.text = line.text from same.text]
        simp only [Finding.table?, Option.map_some, TableBlock.unnumbered, texts]
    | _ => rfl
  · intro x x' here
    cases here <;> rfl

end Extract

end ErdDeploy
