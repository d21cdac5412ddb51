import ErdDeploy.Proofs.Deployment.MemoryRun

/-!
What the remote decides about an object.

A target that meets a remote has no choice: its item (`Target.itemOn`) and its
exchanges (`Target.exchangesOn`) are functions of the remote, and of it they look at
no more than the failures of the target's name and what is stored at its address. So
two runs are compared by comparing the two remotes there. In return a task leaves
every other address as it was (`Task.Fares.get?_of_untouched`), and its own, too,
unless its item is a creation (`Task.Fares.own_cases`).
-/

namespace ErdDeploy

open MemoryRemote

/-! ## Items and exchanges -/

/-- The item that a target comes to on a remote. -/
def Target.itemOn (target : Target) (dryRun : Bool) (remote : MemoryRemote) : Item :=
  match remote.failures.lookup (.find target.name), (remote.store target.kind).get? target.name,
    target.plan with
  | some failure, _, _ => .failed target.label failure.message
  | none, some (.text id), _ => .existing target.name id
  | none, _, .error missing => .failed target.label missing.message
  | none, _, .ok _ =>
    if dryRun then .skipped target.name "would create"
    else match remote.failures.lookup (.create target.name) with
      | some failure => .failed target.label failure.message
      | none => .created target.name (some remote.nextIdentifier)

/-- The exchanges that a target makes with a remote. -/
def Target.exchangesOn (target : Target) (dryRun : Bool) (remote : MemoryRemote) :
    List Exchange :=
  match remote.failures.lookup (.find target.name), (remote.store target.kind).get? target.name,
    target.plan with
  | some failure, _, _ => [target.lookup (.error (.failure failure))]
  | none, some (.text id), _ => [target.lookup (.ok (.text id))]
  | none, _, .error _ => [target.lookup (.ok .absent)]
  | none, _, .ok (payload, _) =>
    if dryRun then [target.lookup (.ok .absent)]
    else match remote.failures.lookup (.create target.name) with
      | some failure =>
        [target.lookup (.ok .absent), .create payload (.error (.failure failure))]
      | none =>
        [target.lookup (.ok .absent), .create payload (.ok (.text remote.nextIdentifier))]

section

variable {dryRun : Bool} {remote after : MemoryRemote} {exchanges : List Exchange}

theorem Target.Fares.item_eq {target : Target} {item : Item}
    (fares : target.Fares dryRun remote item exchanges after) :
    item = target.itemOn dryRun remote := by
  unfold itemOn
  cases fares with
  | lookupFailed failing _ => rw [failing]
  | found answered stored _ => rw [answered, stored]
  | unplanned missed plan _ => rw [missed.answered, missed.absent, plan]
  | skipped missed plan dry _ => rw [missed.answered, missed.absent, plan, if_pos dry]
  | refused missed plan wet failing _ =>
      rw [missed.answered, missed.absent, plan, if_neg (by simp [wet]), failing]
  | created missed plan wet accepted _ _ _ =>
      rw [missed.answered, missed.absent, plan, if_neg (by simp [wet]), accepted]

theorem Target.Fares.exchanges_eq {target : Target} {item : Item}
    (fares : target.Fares dryRun remote item exchanges after) :
    exchanges = target.exchangesOn dryRun remote := by
  unfold exchangesOn
  cases fares with
  | lookupFailed failing _ => rw [failing]
  | found answered stored _ => rw [answered, stored]
  | unplanned missed plan _ => rw [missed.answered, missed.absent, plan]
  | @skipped planned _ missed plan dry _ =>
      have plan : target.plan = .ok (planned.1, planned.2) := plan
      rw [missed.answered, missed.absent, plan]
      exact (if_pos dry).symm
  | refused missed plan wet failing _ =>
      rw [missed.answered, missed.absent, plan, failing, wet]
      rfl
  | created missed plan wet accepted _ _ _ =>
      rw [missed.answered, missed.absent, plan, accepted, wet]
      rfl

/-- An item with an identifier bears the name of its target. -/
theorem Target.Fares.name_of_identified {target : Target} {item : Item} {id : String}
    (fares : target.Fares dryRun remote item exchanges after)
    (known : item.identifier = some id) : item.name = target.name := by
  cases fares with
  | lookupFailed _ _ => cases known
  | found _ _ _ => rfl
  | unplanned _ _ _ => cases known
  | skipped _ _ _ _ => cases known
  | refused _ _ _ _ _ => cases known
  | created _ _ _ _ _ _ _ => rfl

/-! ## Addresses -/

/-- Where a task looks and writes, if it does. -/
def Task.address : Task → Option (ObjectKind × String)
  | .settled _ _ => none
  | .converge target => some (target.kind, target.name)

variable {kind : ObjectKind} {name : String}

/-- A task leaves every address but its own as it was. -/
theorem Task.Fares.get?_of_untouched {task : Task} {item : Item}
    (fares : task.Fares dryRun remote item exchanges after)
    (untouched : task.address ≠ some (kind, name)) :
    (after.store kind).get? name = (remote.store kind).get? name := by
  cases fares with
  | settled item log => rfl
  | @converge target _ _ _ fares =>
      have alike : remote.Alike after →
          (after.store kind).get? name = (remote.store kind).get? name := by
        intro alike
        rw [alike.store]
      cases fares with
      | lookupFailed _ same => exact alike same
      | found _ _ same => exact alike same
      | unplanned _ _ same => exact alike same
      | skipped _ _ _ same => exact alike same
      | refused _ _ _ _ same => exact alike same
      | created _ _ _ _ _ _ gained =>
          by_cases same : kind = target.kind
          · subst same
            have differ : name ≠ target.name := by
              rintro rfl
              exact untouched rfl
            rw [gained.store, OrderedMap.get?_insert_of_ne _ _ differ]
          · rw [gained.others kind same]

/-- At its own address a task changes nothing, or creates what was not there. -/
theorem Task.Fares.own_cases {task : Task} {item : Item}
    (fares : task.Fares dryRun remote item exchanges after)
    (own : task.address = some (kind, name)) :
    (after.store kind).get? name = (remote.store kind).get? name ∧ item.outcome ≠ .created ∨
      (remote.store kind).get? name = none ∧ item.outcome = .created ∧
        ∃ id, (after.store kind).get? name = some (.text id) := by
  cases fares with
  | settled item log => cases own
  | converge fares =>
      cases own
      cases fares with
      | lookupFailed _ alike => exact Or.inl ⟨by rw [alike.store], nofun⟩
      | found _ _ alike => exact Or.inl ⟨by rw [alike.store], nofun⟩
      | unplanned _ _ alike => exact Or.inl ⟨by rw [alike.store], nofun⟩
      | skipped _ _ _ alike => exact Or.inl ⟨by rw [alike.store], nofun⟩
      | refused _ _ _ _ alike => exact Or.inl ⟨by rw [alike.store], nofun⟩
      | created missed _ _ _ _ _ gained =>
          refine Or.inr ⟨missed.absent, rfl, remote.nextIdentifier, ?_⟩
          rw [gained.store]
          exact OrderedMap.get?_insert_self _ _ _

end

end ErdDeploy
