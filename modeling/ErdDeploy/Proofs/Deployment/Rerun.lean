import ErdDeploy.Proofs.Deployment.Accounts

/-!
Running again.

The items of a first run account for its objects on the remote that the run leaves,
and a second run has the same objects. Since runs only add objects, whatever is
accounted for is found again: it is reported as existing, under the same name and
identifier, and after a run without failures the second run has nothing to create
(`Model.rerun_again`).
-/

namespace ErdDeploy

open MemoryRemote

/-! ## Items of two runs -/

/-- An item of a second run beside that of the first: what was there or was created is reported
as existing, and what was skipped is reported the same. -/
structure Item.Again (first second : Item) : Prop where
  converged : first.outcome = .created ∨ first.outcome = .existing →
    second.outcome = .existing ∧ second.name = first.name ∧
      second.identifier = first.identifier
  skipped : first.outcome = .skipped → second = first

/-- What did not fail is known under its name and identifier, and is there or was skipped. -/
theorem Item.Again.known {first second : Item} (again : first.Again second)
    (fine : first.outcome ≠ .failed) :
    (second.outcome = .existing ∨ second.outcome = .skipped) ∧ second.name = first.name ∧
      second.identifier = first.identifier := by
  cases outcome : first.outcome with
  | created =>
      obtain ⟨existing, same⟩ := again.converged (Or.inl outcome)
      exact ⟨Or.inl existing, same⟩
  | existing =>
      obtain ⟨existing, same⟩ := again.converged (Or.inr outcome)
      exact ⟨Or.inl existing, same⟩
  | failed => exact absurd outcome fine
  | skipped =>
      rw [again.skipped outcome]
      exact ⟨Or.inr outcome, rfl, rfl⟩

/-- What is stored is found, if no call is set up to fail. -/
theorem Target.Fares.existing {target : Target} {item : Item} {id : String}
    {remote after : MemoryRemote} {exchanges : List Exchange} {dryRun : Bool}
    (fine : remote.failures = [])
    (stored : (remote.store target.kind).get? target.name = some (.text id))
    (fares : target.Fares dryRun remote item exchanges after) :
    item = .existing target.name id ∧ ∀ exchange ∈ exchanges, exchange.isCreation = false := by
  cases fares with
  | lookupFailed failing _ =>
      rw [fine] at failing
      cases failing
  | found _ found _ =>
      rw [found] at stored
      cases stored
      exact ⟨rfl, by simp [Target.lookup, Exchange.isCreation]⟩
  | unplanned missed _ _ => exact absurd stored missed.not_stored
  | skipped missed _ _ _ => exact absurd stored missed.not_stored
  | refused missed _ _ _ _ => exact absurd stored missed.not_stored
  | created missed _ _ _ _ _ _ => exact absurd stored missed.not_stored

/-- A task for which an item accounts comes to the same again; unless it failed before, nothing
is created for it. -/
theorem Task.Fares.again {task : Task} {item first : Item} {remote after : MemoryRemote}
    {exchanges : List Exchange} {kind : ObjectKind} (fits : task.Fits kind)
    (fine : remote.failures = []) (accounts : task.Accounts remote first)
    (fares : task.Fares false remote item exchanges after) :
    first.Again item ∧ (first.outcome ≠ .failed →
      ∀ exchange ∈ exchanges, exchange.isCreation = false) := by
  cases fares with
  | settled item log =>
      have same : first = item := accounts
      subst same
      refine ⟨⟨fun converged => ?_, fun _ => rfl⟩, fun _ => by simp⟩
      rcases fits.1 with skipped | failed
      · simp [skipped] at converged
      · simp [failed] at converged
  | converge fares =>
      rcases accounts with ⟨failed, -⟩ | ⟨outcome, name, id, known, stored⟩
      · refine ⟨⟨fun converged => ?_, fun skipped => ?_⟩, fun fine => absurd failed fine⟩
        · simp [failed] at converged
        · rw [failed] at skipped
          cases skipped
      · obtain ⟨rfl, quiet⟩ := fares.existing fine stored
        refine ⟨⟨fun _ => ⟨rfl, name.symm, known.symm⟩, fun skipped => ?_⟩, fun _ => quiet⟩
        simp [skipped] at outcome

theorem Passage.again {tasks : List Task} {items firsts : List Item}
    {remote after : MemoryRemote} {exchanges : List Exchange}
    (fits : ∀ task ∈ tasks, ∃ kind, task.Fits kind) (fine : remote.failures = [])
    (accounts : List.Forall₂ (Task.Accounts remote) tasks firsts)
    (passage : Passage false remote tasks items exchanges after) :
    List.Forall₂ Item.Again firsts items ∧
      ((∀ first ∈ firsts, first.outcome ≠ .failed) →
        ∀ exchange ∈ exchanges, exchange.isCreation = false) := by
  induction passage generalizing firsts with
  | done remote =>
      cases accounts
      exact ⟨.nil, by simp⟩
  | @next remote task tasks item exchanges middle items later after fares rest ih =>
      cases accounts with
      | @cons _ first _ firsts accounts others =>
          obtain ⟨kind, fit⟩ := fits task List.mem_cons_self
          obtain ⟨again, quiet⟩ := fares.again fit fine accounts
          -- The rest is passed on a remote that has grown by this task.
          obtain ⟨agains, quiets⟩ := ih
            (fun task member => fits task (List.mem_cons_of_mem _ member))
            (fares.growth.failures.trans fine)
            (others.imp fun _ _ accounts => accounts.grow fares.growth.retains)
          refine ⟨.cons again agains, fun unfailed exchange member => ?_⟩
          rcases List.mem_append.mp member with here | there
          · exact quiet (unfailed first List.mem_cons_self) exchange here
          · exact quiets (fun other among => unfailed other (List.mem_cons_of_mem _ among))
              exchange there

/-! ## Reports and registries of two runs -/

section

variable {firsts seconds : List Item}

/-- What comes to the same again is registered the same. -/
theorem identifiersOf_again (agains : List.Forall₂ Item.Again firsts seconds)
    (fine : ∀ first ∈ firsts, first.outcome ≠ .failed) :
    Registry.identifiersOf seconds = Registry.identifiersOf firsts := by
  have same : (seconds.filterMap fun item => item.identifier.map fun id => (item.name, id)) =
      firsts.filterMap fun item => item.identifier.map fun id => (item.name, id) := by
    induction agains with
    | nil => rfl
    | @cons first second firsts seconds again rest ih =>
        obtain ⟨-, name, identifier⟩ := again.known (fine first List.mem_cons_self)
        rw [List.filterMap_cons, List.filterMap_cons, name, identifier,
          ih fun other member => fine other (List.mem_cons_of_mem _ member)]
  rw [Registry.identifiersOf, Registry.identifiersOf, same]

/-- If everything is there or was skipped, whatever counts as declared is there. -/
theorem Report.declared_eq_existing {report : Report}
    (settled : ∀ item ∈ report.items, item.outcome = .existing ∨ item.outcome = .skipped) :
    report.declared = report.existing := by
  have none : ∀ outcome, outcome ≠ .existing → outcome ≠ .skipped → report.count outcome = 0 := by
    intro outcome notExisting notSkipped
    rw [count, List.countP_eq_zero]
    intro item member same
    rw [beq_iff_eq] at same
    rcases settled item member with existing | skipped
    · exact notExisting (same.symm.trans existing)
    · exact notSkipped (same.symm.trans skipped)
  rw [declared_eq, created, failed, none .created (by decide) (by decide),
    none .failed (by decide) (by decide)]
  omega

/-- Items that come to the same again are there or were skipped, unless they failed. -/
theorem settled_of_again (agains : List.Forall₂ Item.Again firsts seconds)
    (fine : ∀ first ∈ firsts, first.outcome ≠ .failed) :
    ∀ second ∈ seconds, second.outcome = .existing ∨ second.outcome = .skipped := by
  intro second member
  obtain ⟨first, among, again⟩ := exists_left_of_forall₂ agains second member
  exact (again.known (fine first among)).1

end

/-! ## Two runs -/

/-- A report of a second run beside that of the first. -/
structure Report.Again (first second : Report) : Prop where
  kind : second.kind = first.kind
  items : List.Forall₂ Item.Again first.items second.items

/-- A report in which nothing failed has all that is declared when it comes again. -/
theorem Report.Again.declared_eq_existing {first second : Report} (again : first.Again second)
    (fine : ∀ item ∈ first.items, item.outcome ≠ .failed) : second.declared = second.existing :=
  Report.declared_eq_existing (settled_of_again again.items fine)

/-- The reports of a run come again if the items of its stages do. -/
theorem Summary.reports_again {diagnostics : List Diagnostic} {dryRun : Bool}
    {optionSets tables relationships userRelationships : List Item}
    {optionSets' tables' relationships' userRelationships' : List Item}
    (first : List.Forall₂ Item.Again optionSets optionSets')
    (second : List.Forall₂ Item.Again tables tables')
    (third : List.Forall₂ Item.Again relationships relationships')
    (fourth : List.Forall₂ Item.Again userRelationships userRelationships') :
    List.Forall₂ Report.Again
      (Summary.ofItems diagnostics dryRun optionSets tables relationships
        userRelationships).reports
      (Summary.ofItems diagnostics dryRun optionSets' tables' relationships'
        userRelationships').reports := by
  rw [reports_ofItems, reports_ofItems]
  exact .cons ⟨rfl, first⟩ (.cons ⟨rfl, second⟩
    (.cons ⟨rfl, List.rel_append third fourth⟩ .nil))

/-- In a run that succeeded nothing failed in any of the four stages. -/
theorem Summary.unfailed_ofItems {diagnostics : List Diagnostic} {dryRun : Bool}
    {optionSets tables relationships userRelationships : List Item}
    (success : (Summary.ofItems diagnostics dryRun optionSets tables relationships
      userRelationships).isSuccess = true) :
    (∀ item ∈ optionSets, item.outcome ≠ .failed) ∧ (∀ item ∈ tables, item.outcome ≠ .failed) ∧
      (∀ item ∈ relationships, item.outcome ≠ .failed) ∧
      ∀ item ∈ userRelationships, item.outcome ≠ .failed := by
  exact (forall_items_ofItems _ _ _ _ _ _ fun _ item => item.outcome ≠ .failed).mp
    (isSuccess_iff.mp success)

theorem Registry.ofItems_congr {items others : List Item} (kind : ObjectKind)
    (same : identifiersOf items = identifiersOf others) :
    ofItems kind items = ofItems kind others := by
  cases kind with
  | optionSet => rw [ofItems, ofItems, same]
  | table => rw [ofItems, ofItems, same]
  | relationship => rw [ofItems, ofItems, same]

/-- One stage again: all that its items account for is still there when it begins. -/
theorem Passage.again_later {tasks : List Task} {items firsts : List Item}
    {start remote after : MemoryRemote} {exchanges before : List Exchange}
    (fits : ∀ task ∈ tasks, ∃ kind, task.Fits kind)
    (accounts : List.Forall₂ (Task.Accounts start) tasks firsts)
    (growth : (start.withFailures []).Growth before remote)
    (passage : Passage false remote tasks items exchanges after) :
    List.Forall₂ Item.Again firsts items ∧
      ((∀ first ∈ firsts, first.outcome ≠ .failed) →
        ∀ exchange ∈ exchanges, exchange.isCreation = false) := by
  refine passage.again fits growth.failures (accounts.imp fun _ _ accounts => ?_)
  refine accounts.grow fun stored => growth.retains ?_
  rwa [store_withFailures]

theorem Visit.again {settings : SchemaSettings} {m : Model} {remote start after : MemoryRemote}
    {one two : Summary} {exchanges exchanges' : List Exchange}
    (first : Visit false settings m remote one exchanges start)
    (second : Visit false settings m (start.withFailures []) two exchanges' after) :
    List.Forall₂ Report.Again one.reports two.reports ∧
      (one.isSuccess = true →
        (∀ exchange ∈ exchanges', exchange.isCreation = false) ∧
        (∀ report ∈ two.reports, report.declared = report.existing) ∧
        two.registry = one.registry) := by
  obtain ⟨items₁, items₂, items₃, items₄, rfl, accounts₁, accounts₂, accounts₃, accounts₄⟩ :=
    first.accounts
  obtain ⟨passage₁, passage₂, passage₃, passage₄⟩ := second
  have toTables := passage₁.growth
  have toRelationships := composable_growth.trans toTables passage₂.growth
  have toUsers := composable_growth.trans toRelationships passage₃.growth
  obtain ⟨agains₁, quiet₁⟩ := passage₁.again_later
    (fun task member => ⟨_, @Stage.fits .optionSets settings .empty m task member⟩) accounts₁
    (composable_growth.refl _)
  obtain ⟨agains₂, quiet₂⟩ := passage₂.again_later
    (fun task member => ⟨_, @Stage.fits .tables settings _ m task member⟩) (accounts₂ _) toTables
  obtain ⟨agains₃, quiet₃⟩ := passage₃.again_later
    (fun task member => ⟨_, fits_of_mem_relationshipTasks member⟩) accounts₃ toRelationships
  obtain ⟨agains₄, quiet₄⟩ := passage₄.again_later
    (fun task member => ⟨_, fits_of_mem_relationshipTasks member⟩) accounts₄ toUsers
  have reports := @Summary.reports_again m.diagnostics false _ _ _ _ _ _ _ _ agains₁ agains₂
    agains₃ agains₄
  refine ⟨reports, fun success => ⟨fun exchange member => ?_, fun report member => ?_, ?_⟩⟩
  · obtain ⟨fine₁, fine₂, fine₃, fine₄⟩ := Summary.unfailed_ofItems success
    simp only [List.mem_append] at member
    rcases member with member | member | member | member
    · exact quiet₁ fine₁ exchange member
    · exact quiet₂ fine₂ exchange member
    · exact quiet₃ fine₃ exchange member
    · exact quiet₄ fine₄ exchange member
  · obtain ⟨first, among, again⟩ := exists_left_of_forall₂ reports report member
    exact again.declared_eq_existing (Summary.isSuccess_iff.mp success first among)
  · obtain ⟨fine₁, fine₂, fine₃, fine₄⟩ := Summary.unfailed_ofItems success
    rw [Summary.registry_ofItems, Summary.registry_ofItems,
      Registry.ofItems_congr _ (identifiersOf_again agains₁ fine₁),
      Registry.ofItems_congr _ (identifiersOf_again agains₂ fine₂),
      Registry.ofItems_congr _ (identifiersOf_again agains₃ fine₃),
      Registry.ofItems_congr _ (identifiersOf_again agains₄ fine₄)]

/-- **Running again.** Whatever a first run went through on a remote that holds texts, its reports
have an item for each object, and a second run on what it left, with no call set up to fail, comes
to the same reports item by item: what was created or found is found under the same name and
identifier, and what was skipped is skipped the same. If nothing failed in the first run, the
second one creates nothing, finds all that is declared, and knows the same identifiers. -/
theorem Model.rerun_again (m : Model) (settings : SchemaSettings) {remote : MemoryRemote}
    (texts : remote.HoldsTexts) :
    ∃ one two,
      (m.deploy (some client) settings false remote).result = .ok one ∧
      (m.deploy (some client) settings false (m.mended settings remote)).result = .ok two ∧
      one.Complete m ∧ List.Forall₂ Report.Again one.reports two.reports ∧
      (one.isSuccess = true →
        (∀ exchange ∈ m.exchanges client settings false (m.mended settings remote),
          exchange.isCreation = false) ∧
        (∀ report ∈ two.reports, report.declared = report.existing) ∧
        two.registry = one.registry) := by
  obtain ⟨one, first, visit⟩ := m.visit settings false texts
  have left := (visit.growth.texts texts).withFailures []
  obtain ⟨two, second, visit'⟩ := m.visit settings false left
  exact ⟨one, two, first, second, visit.complete, visit.again visit'⟩

/-- A remote that has an option set and nothing else. -/
def optionSetOnly : MemoryRemote :=
  empty.seed .optionSet "new_s" (.text "s")

/-- Two runs of a source on a remote that has its option set and lacks its table. -/
theorem Model.rerun_again_of_optionSet_stored :
    optionSetOnly.HoldsTexts ∧
      ∃ m, Model.ofText {} false oneChoice = .ok m ∧
        ∃ one two,
          (m.deploy (some client) {} false optionSetOnly).result = .ok one ∧
          (m.deploy (some client) {} false (m.mended {} optionSetOnly)).result = .ok two ∧
          one.Complete m ∧ List.Forall₂ Report.Again one.reports two.reports ∧
          (one.isSuccess = true →
            (∀ exchange ∈ m.exchanges client {} false (m.mended {} optionSetOnly),
              exchange.isCreation = false) ∧
            (∀ report ∈ two.reports, report.declared = report.existing) ∧
            two.registry = one.registry) := by
  have texts : optionSetOnly.HoldsTexts := holdsTexts_empty.seed .optionSet "new_s" "s"
  obtain ⟨m, read⟩ := exists_ofText_oneChoice
  exact ⟨texts, m, read, m.rerun_again {} texts⟩

end ErdDeploy
