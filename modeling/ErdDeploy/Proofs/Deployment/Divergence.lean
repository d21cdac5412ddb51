import ErdDeploy.Proofs.Deployment.SharedNames
import ErdDeploy.Proofs.Deployment.Twins

/-!
Two runs that diverge over one name.

Let two runs of one model start from one remote, with failures that differ for a
single name only. From the first such failure on they meet different remotes, but
`MemoryRemote.AlikeOff` holds throughout: under any other name both remotes have an
object or neither has, and under the same identifier, unless the object was not there
at the start and so came new in both runs. New identifiers are numbered as they come
and may differ (`Renumbered`).

So a task with another name comes to twin items by twin exchanges, a task with this
name makes exchanges about this name only, and either leaves the remotes alike again
(`Passage.isolated`).
-/

namespace ErdDeploy

open MemoryRemote

/-! ## Objects in two runs -/

/-- The identifier of an object in two runs: the same in both, unless the object is new. -/
inductive Renumbered {α : Type} (new : Prop) : Option α → Option α → Prop
  | same (known : Option α) : Renumbered new known known
  | fresh {id id' : α} : new → Renumbered new (some id) (some id')

/-- The answer to a call about an object in two runs. -/
inductive Reanswered (new : Prop) :
    Except ClientError RemoteId → Except ClientError RemoteId → Prop
  | same (answer : Except ClientError RemoteId) : Reanswered new answer answer
  | fresh {id id' : String} : new → Reanswered new (.ok (.text id)) (.ok (.text id'))

/-- The items of an object in two runs: only the identifier of a new object may differ. -/
structure Item.Twin (new : Prop) (item item' : Item) : Prop where
  name : item'.name = item.name
  outcome : item'.outcome = item.outcome
  error : item'.error = item.error
  note : item'.note = item.note
  identifier : Renumbered new item.identifier item'.identifier

theorem Renumbered.symm {α : Type} {new : Prop} {known known' : Option α}
    (renumbered : Renumbered new known known') : Renumbered new known' known := by
  cases renumbered with
  | same known => exact .same known
  | fresh new => exact .fresh new

theorem Item.Twin.refl (new : Prop) (item : Item) : item.Twin new item :=
  ⟨rfl, rfl, rfl, rfl, .same _⟩

theorem Item.Twin.symm {new : Prop} {item item' : Item} (twin : item.Twin new item') :
    item'.Twin new item :=
  ⟨twin.name.symm, twin.outcome.symm, twin.error.symm, twin.note.symm, twin.identifier.symm⟩

/-- The remote does not have the object. -/
def MemoryRemote.Lacks (remote : MemoryRemote) (kind : ObjectKind) (name : String) : Prop :=
  (remote.store kind).get? name = none

/-- The name of the object that the call is about. -/
def Exchange.name : Exchange → String
  | .find _ name _ => name
  | .create payload _ => payload.name

/-- The same call in two runs that start from one remote. -/
inductive Exchange.Twin (start : MemoryRemote) (alike : TablePayload → TablePayload → Prop) :
    Exchange → Exchange → Prop
  | find {kind : ObjectKind} {name : String} {answer answer' : Except ClientError RemoteId} :
      Reanswered (start.Lacks kind name) answer answer' →
      Twin start alike (.find kind name answer) (.find kind name answer')
  | create {payload payload' : Payload} {answer answer' : Except ClientError RemoteId} :
      payload.Twin alike payload' →
      Reanswered (start.Lacks payload.kind payload.name) answer answer' →
      Twin start alike (.create payload answer) (.create payload' answer')

/-- Two remotes on which runs from one start may come to stand, if their failures differ for one
name only. -/
structure MemoryRemote.AlikeOff (off : String) (start one two : MemoryRemote) : Prop where
  finds : ∀ name, name ≠ off →
    two.failures.lookup (.find name) = one.failures.lookup (.find name)
  creates : ∀ name, name ≠ off →
    two.failures.lookup (.create name) = one.failures.lookup (.create name)
  stores : ∀ kind name, name ≠ off →
    Renumbered (start.Lacks kind name) ((one.store kind).get? name) ((two.store kind).get? name)
  grown : ∀ kind name, one.Lacks kind name → start.Lacks kind name
  texts : two.HoldsTexts

section

variable {off : String} {start one two : MemoryRemote} {kind : ObjectKind} {name : String}

theorem MemoryRemote.AlikeOff.absent (alike : AlikeOff off start one two) (other : name ≠ off)
    (lacks : (one.store kind).get? name = none) : (two.store kind).get? name = none := by
  have stores := alike.stores kind name other
  rw [lacks] at stores
  generalize (two.store kind).get? name = known at stores ⊢
  cases stores with
  | same => rfl

theorem MemoryRemote.AlikeOff.stored {id : String} (alike : AlikeOff off start one two)
    (other : name ≠ off) (stored : (one.store kind).get? name = some (.text id)) :
    ∃ id', (two.store kind).get? name = some (.text id') ∧
      (id' = id ∨ start.Lacks kind name) := by
  have stores := alike.stores kind name other
  rw [stored] at stores
  cases present : (two.store kind).get? name with
  | none =>
      rw [present] at stores
      cases stores
  | some value =>
      obtain ⟨id', rfl⟩ := alike.texts.of_get? present
      rw [present] at stores
      cases stores with
      | same => exact ⟨id, rfl, Or.inl rfl⟩
      | fresh new => exact ⟨id', rfl, Or.inr new⟩

/-! ## One target -/

variable {like : TablePayload → TablePayload → Prop} {dryRun : Bool}
  {after after' : MemoryRemote} {exchanges exchanges' : List Exchange}

/-- The exchanges of a target are about its name. -/
theorem Target.Fares.name_of_exchange {target : Target} {item : Item}
    (fits : (Task.converge target).Fits target.kind)
    (fares : target.Fares dryRun one item exchanges after) :
    ∀ exchange ∈ exchanges, exchange.name = target.name := by
  cases fares with
  | lookupFailed _ _ => simp [lookup, Exchange.name]
  | found _ _ _ => simp [lookup, Exchange.name]
  | unplanned _ _ _ => simp [lookup, Exchange.name]
  | skipped _ _ _ _ => simp [lookup, Exchange.name]
  | refused _ plan _ _ _ => simp [lookup, Exchange.name, (fits.2 _ _ plan).2]
  | created _ _ _ _ _ named _ => simp [lookup, Exchange.name, named]

theorem Target.Twin.lookup_twin {target target' : Target} (twin : target.Twin like target')
    {answer answer' : Except ClientError RemoteId}
    (reanswered : Reanswered (start.Lacks target.kind target.name) answer answer') :
    (target.lookup answer).Twin start like (target'.lookup answer') := by
  rw [lookup, lookup, twin.kind, twin.name]
  exact .find reanswered

/-- Twin targets of another name come to twin items by twin exchanges. -/
theorem Target.Twin.isolated {target target' : Target} {item item' : Item}
    (twin : target.Twin like target') (other : target.name ≠ off)
    (alike : AlikeOff off start one two)
    (fares : target.Fares dryRun one item exchanges after)
    (fares' : target'.Fares dryRun two item' exchanges' after') :
    item.Twin (start.Lacks target.kind target.name) item' ∧
      List.Forall₂ (Exchange.Twin start like) exchanges exchanges' := by
  have finds := alike.finds _ other
  have creates := alike.creates _ other
  rw [fares'.item_eq, fares'.exchanges_eq, itemOn, exchangesOn, twin.kind, twin.label, twin.name,
    finds, creates]
  cases fares with
  | lookupFailed failing _ =>
      rw [failing]
      exact ⟨.refl _ _, .cons (twin.lookup_twin (.same _)) .nil⟩
  | found answered stored _ =>
      obtain ⟨id', stored', rfl | new⟩ := alike.stored other stored
      · rw [answered, stored']
        exact ⟨.refl _ _, .cons (twin.lookup_twin (.same _)) .nil⟩
      · rw [answered, stored']
        exact ⟨⟨rfl, rfl, rfl, rfl, .fresh new⟩, .cons (twin.lookup_twin (.fresh new)) .nil⟩
  | unplanned missed plan _ =>
      rw [missed.answered, alike.absent other missed.absent, twin.plan_error plan]
      exact ⟨.refl _ _, .cons (twin.lookup_twin (.same _)) .nil⟩
  | skipped missed plan dry _ =>
      obtain ⟨payload', warnings', plan', -⟩ := twin.plan_ok plan
      rw [missed.answered, alike.absent other missed.absent, plan', dry]
      exact ⟨.refl _ _, .cons (twin.lookup_twin (.same _)) .nil⟩
  | refused missed plan wet failing _ =>
      obtain ⟨payload', warnings', plan', same⟩ := twin.plan_ok plan
      rw [missed.answered, alike.absent other missed.absent, plan', wet, failing]
      exact ⟨.refl _ _, .cons (twin.lookup_twin (.same _)) (.cons (.create same (.same _)) .nil)⟩
  | @created payload _ _ missed plan wet accepted sameKind sameName _ =>
      obtain ⟨payload', warnings', plan', same⟩ := twin.plan_ok plan
      have new := alike.grown _ _ missed.absent
      have newPayload : start.Lacks payload.kind payload.name := by
        rw [sameKind, sameName]
        exact new
      rw [missed.answered, alike.absent other missed.absent, plan', wet, accepted]
      exact ⟨⟨rfl, rfl, rfl, rfl, .fresh new⟩,
        .cons (twin.lookup_twin (.same _)) (.cons (.create same (.fresh newPayload)) .nil)⟩

/-! ## One stage -/

/-- The name of the object that a task is about. -/
def Task.remoteName : Task → String
  | .settled item _ => item.name
  | .converge target => target.name

/-- Items about some objects in two runs: twins, unless the object has the one name. -/
inductive TwinItems (off : String) (new : String → Prop) :
    List String → List Item → List Item → Prop
  | nil : TwinItems off new [] [] []
  | cons {name : String} {item item' : Item} {names : List String} {items items' : List Item} :
      (name ≠ off → item.Twin (new name) item') → TwinItems off new names items items' →
      TwinItems off new (name :: names) (item :: items) (item' :: items')

theorem TwinItems.symm {new : String → Prop} {names : List String} {items items' : List Item}
    (twins : TwinItems off new names items items') : TwinItems off new names items' items := by
  induction twins with
  | nil => exact .nil
  | cons twin _ ih => exact .cons (fun other => (twin other).symm) ih

theorem TwinItems.append {new : String → Prop} {names later : List String}
    {items items' others others' : List Item} (twins : TwinItems off new names items items')
    (rest : TwinItems off new later others others') :
    TwinItems off new (names ++ later) (items ++ others) (items' ++ others') := by
  induction twins with
  | nil => exact rest
  | cons twin _ ih => exact .cons twin ih

/-- The exchanges that are not about the name. -/
def exchangesOff (off : String) (exchanges : List Exchange) : List Exchange :=
  exchanges.filter fun exchange => exchange.name ≠ off

theorem exchangesOff_append (exchanges later : List Exchange) :
    exchangesOff off (exchanges ++ later) =
      exchangesOff off exchanges ++ exchangesOff off later :=
  List.filter_append ..

section

variable {task task' : Task} {item item' : Item}

/-- Twin tasks leave the remotes alike. -/
theorem Task.Twin.alikeOff (twin : task.Twin like task')
    (twins : task.remoteName ≠ off → item'.outcome = item.outcome)
    (alike : AlikeOff off start one two) (fares : task.Fares dryRun one item exchanges after)
    (fares' : task'.Fares dryRun two item' exchanges' after') :
    AlikeOff off start after after' where
  finds name other := by
    rw [fares.growth.failures, fares'.growth.failures, alike.finds name other]
  creates name other := by
    rw [fares.growth.failures, fares'.growth.failures, alike.creates name other]
  stores kind name other := by
    by_cases own : task.address = some (kind, name)
    · have named : task.remoteName = name := by
        cases twin with
        | settled item log => cases own
        | converge _ =>
            cases own
            rfl
      have outcome := twins (named ▸ other)
      rcases fares.own_cases own with ⟨same, kept⟩ | ⟨lacks, made, id, stored⟩
      · rcases fares'.own_cases (twin.address_eq.trans own) with ⟨same', -⟩ | ⟨-, made', -⟩
        · rw [same, same']
          exact alike.stores kind name other
        · exact absurd (outcome ▸ made') kept
      · rcases fares'.own_cases (twin.address_eq.trans own) with ⟨-, kept'⟩ | ⟨-, -, id', stored'⟩
        · exact absurd (outcome.trans made) kept'
        · rw [stored, stored']
          exact .fresh (alike.grown kind name lacks)
    · rw [fares.get?_of_untouched own, fares'.get?_of_untouched (twin.address_eq ▸ own)]
      exact alike.stores kind name other
  grown kind name lacks := by
    refine alike.grown kind name ?_
    unfold Lacks at lacks ⊢
    cases stored : (one.store kind).get? name with
    | none => rfl
    | some value =>
        rw [fares.growth.retains stored] at lacks
        cases lacks
  texts := fares'.growth.texts alike.texts

/-- Twin tasks come to twin items by twin exchanges, unless they are about the one name. -/
theorem Task.Twin.isolated (twin : task.Twin like task') (fits : task.Fits kind)
    (fits' : task'.Fits kind) (alike : AlikeOff off start one two)
    (fares : task.Fares dryRun one item exchanges after)
    (fares' : task'.Fares dryRun two item' exchanges' after') :
    (task.remoteName ≠ off → item.Twin (start.Lacks kind task.remoteName) item') ∧
      List.Forall₂ (Exchange.Twin start like) (exchangesOff off exchanges)
        (exchangesOff off exchanges') := by
  cases twin with
  | settled item log =>
      cases fares
      cases fares'
      exact ⟨fun _ => .refl _ item, .nil⟩
  | @converge target target' twin =>
      obtain ⟨sameKind, -⟩ := id fits
      obtain ⟨sameKind', -⟩ := id fits'
      subst sameKind
      cases fares with
      | converge fares =>
          cases fares' with
          | converge fares' =>
              have about := fares.name_of_exchange fits
              have about' := fares'.name_of_exchange (sameKind' ▸ fits')
              by_cases other : target.name = off
              · refine ⟨fun differ => absurd other differ, ?_⟩
                have none : exchangesOff off exchanges = [] :=
                  List.filter_eq_nil_iff.mpr fun exchange member => by
                    simp [about exchange member, other]
                have none' : exchangesOff off exchanges' = [] :=
                  List.filter_eq_nil_iff.mpr fun exchange member => by
                    simp [about' exchange member, twin.name, other]
                rw [none, none']
                exact .nil
              · have all : exchangesOff off exchanges = exchanges :=
                  List.filter_eq_self.mpr fun exchange member => by
                    simp [about exchange member, other]
                have all' : exchangesOff off exchanges' = exchanges' :=
                  List.filter_eq_self.mpr fun exchange member => by
                    simp [about' exchange member, twin.name, other]
                obtain ⟨items, calls⟩ := twin.isolated other alike fares fares'
                rw [all, all']
                exact ⟨fun _ => items, calls⟩

end

/-- **One stage.** Twin tasks come to twin items by twin exchanges, but for those about the one
name, and leave the remotes alike. -/
theorem Passage.isolated {tasks tasks' : List Task} {items items' : List Item}
    (twins : List.Forall₂ (Task.Twin like) tasks tasks') (fits : ∀ task ∈ tasks, task.Fits kind)
    (fits' : ∀ task ∈ tasks', task.Fits kind) (alike : AlikeOff off start one two)
    (passage : Passage dryRun one tasks items exchanges after)
    (passage' : Passage dryRun two tasks' items' exchanges' after') :
    TwinItems off (start.Lacks kind) (tasks.map Task.remoteName) items items' ∧
      List.Forall₂ (Exchange.Twin start like) (exchangesOff off exchanges)
        (exchangesOff off exchanges') ∧
      AlikeOff off start after after' := by
  induction passage generalizing two tasks' items' exchanges' with
  | done remote =>
      cases twins
      cases passage'
      exact ⟨.nil, .nil, alike⟩
  | next fares _ ih =>
      cases twins with
      | cons twin twins =>
          cases passage' with
          | next fares' rest' =>
              obtain ⟨here, calls⟩ := twin.isolated (fits _ List.mem_cons_self)
                (fits' _ List.mem_cons_self) alike fares fares'
              have onward := twin.alikeOff (fun other => (here other).outcome) alike fares fares'
              obtain ⟨later, others, final⟩ := ih twins
                (fun task member => fits task (List.mem_cons_of_mem _ member))
                (fun task member => fits' task (List.mem_cons_of_mem _ member)) onward rest'
              rw [exchangesOff_append, exchangesOff_append]
              exact ⟨.cons here later, List.rel_append calls others, final⟩

end

end ErdDeploy
