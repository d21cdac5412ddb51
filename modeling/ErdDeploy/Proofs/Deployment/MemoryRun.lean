import ErdDeploy.Proofs.Deployment.Exchange
import ErdDeploy.Proofs.Deployment.MemoryRemote
import ErdDeploy.Proofs.Deployment.Summaries
import ErdDeploy.Proofs.Deployment.Tasks

/-!
Runs on a remote in memory.

A run on a remote that holds texts always comes to a summary (`Model.visit`).
`Target.Fares` lists the six ways in which one object can fare there, `Passage`
strings them together for the tasks of a stage, and `Visit` for the four stages of a
run. Whatever happens, a run only adds objects: `Growth` says that what was stored
stays stored under the same identifier, and that the names that come new are those
of the creations that succeeded, in their order. All of them are declared by the
model (`Visit.declared`).
-/

namespace ErdDeploy

/-! ## How objects fare -/

/-- The remote would answer a lookup of the target, and does not have it. -/
structure Target.Missed (target : Target) (remote : MemoryRemote) : Prop where
  answered : remote.failures.lookup (.find target.name) = none
  absent : (remote.store target.kind).get? target.name = none

theorem Target.Missed.not_stored {target : Target} {remote : MemoryRemote} {value : Value}
    (missed : target.Missed remote) :
    (remote.store target.kind).get? target.name ≠ some value := by
  rw [missed.absent]
  exact (Option.some_ne_none value).symm

/-- How a target fares on a remote in memory: its item, the exchanges, and the remote that is
left. -/
inductive Target.Fares (dryRun : Bool) (target : Target) (remote : MemoryRemote) :
    Item → List Exchange → MemoryRemote → Prop
  | lookupFailed {failure after} :
      remote.failures.lookup (.find target.name) = some failure →
      remote.Alike after →
      Fares dryRun target remote (.failed target.label failure.message)
        [target.lookup (.error (.failure failure))] after
  | found {id after} :
      remote.failures.lookup (.find target.name) = none →
      (remote.store target.kind).get? target.name = some (.text id) →
      remote.Alike after →
      Fares dryRun target remote (.existing target.name id) [target.lookup (.ok (.text id))] after
  | unplanned {missing after} :
      target.Missed remote →
      target.plan = .error missing →
      remote.Alike after →
      Fares dryRun target remote (.failed target.label missing.message)
        [target.lookup (.ok .absent)] after
  | skipped {planned after} :
      target.Missed remote →
      target.plan = .ok planned →
      dryRun = true →
      remote.Alike after →
      Fares dryRun target remote (.skipped target.name "would create")
        [target.lookup (.ok .absent)] after
  | refused {payload warnings failure after} :
      target.Missed remote →
      target.plan = .ok (payload, warnings) →
      dryRun = false →
      remote.failures.lookup (.create target.name) = some failure →
      remote.Alike after →
      Fares dryRun target remote (.failed target.label failure.message)
        [target.lookup (.ok .absent), .create payload (.error (.failure failure))] after
  | created {payload warnings after} :
      target.Missed remote →
      target.plan = .ok (payload, warnings) →
      dryRun = false →
      remote.failures.lookup (.create target.name) = none →
      payload.kind = target.kind →
      payload.name = target.name →
      MemoryRemote.Gained target.kind target.name remote after →
      Fares dryRun target remote (.created target.name (some remote.nextIdentifier))
        [target.lookup (.ok .absent), .create payload (.ok (.text remote.nextIdentifier))] after

/-- How a task fares on a remote in memory. -/
inductive Task.Fares (dryRun : Bool) (remote : MemoryRemote) :
    Task → Item → List Exchange → MemoryRemote → Prop
  | settled (item : Item) (log : List LogEntry) :
      Fares dryRun remote (.settled item log) item [] remote
  | converge {target : Target} {item exchanges after} :
      target.Fares dryRun remote item exchanges after →
      Fares dryRun remote (.converge target) item exchanges after

/-- How tasks fare one after the other. -/
inductive Passage (dryRun : Bool) :
    MemoryRemote → List Task → List Item → List Exchange → MemoryRemote → Prop
  | done (remote : MemoryRemote) : Passage dryRun remote [] [] [] remote
  | next {remote task tasks item exchanges middle items later after} :
      Task.Fares dryRun remote task item exchanges middle →
      Passage dryRun middle tasks items later after →
      Passage dryRun remote (task :: tasks) (item :: items) (exchanges ++ later) after

namespace Target

open MemoryRemote

variable {dryRun : Bool} {target : Target} {remote middle after : MemoryRemote}
  {log : List LogEntry}

/-- A lookup that finds nothing missed the target. -/
theorem missed_of_find (texts : remote.HoldsTexts)
    (called : client.find target.kind target.name remote = ⟨.ok .absent, log, middle⟩) :
    remote.Alike middle ∧ target.Missed remote := by
  rcases find_cases texts called with
    ⟨failure, -, same⟩ | ⟨answered, ⟨id, -, same⟩ | ⟨absent, -⟩⟩
  · cases same
  · cases same
  · exact ⟨alike_of_find called, answered, absent⟩

/-- A creation that follows such a lookup fails as it is set up to, or adds the target. -/
theorem create_of_missed {payload : Payload} {warnings : List LogEntry}
    {answer : Except ClientError RemoteId} (fits : (Task.converge target).Fits target.kind)
    (missed : target.Missed remote) (alike : remote.Alike middle)
    (plan : target.plan = .ok (payload, warnings))
    (called : client.create payload middle = ⟨answer, log, after⟩) :
    payload.kind = target.kind ∧ payload.name = target.name ∧
      ((∃ failure, remote.failures.lookup (.create target.name) = some failure ∧
          answer = .error (.failure failure) ∧ remote.Alike after) ∨
        remote.failures.lookup (.create target.name) = none ∧
          answer = .ok (.text remote.nextIdentifier) ∧
          Gained target.kind target.name remote after) := by
  obtain ⟨kind, name⟩ := fits.2 payload warnings plan
  have absent : (middle.store payload.kind).get? payload.name = none := by
    rw [kind, name, alike.store, missed.absent]
  have identifier : middle.nextIdentifier = remote.nextIdentifier := by
    rw [nextIdentifier, nextIdentifier, alike.counter]
  refine ⟨kind, name, ?_⟩
  have cases := create_cases absent called
  rw [kind, name, alike.failures, identifier] at cases
  rcases cases with ⟨failure, failing, same, alike'⟩ | ⟨answered, same, gained⟩
  · exact Or.inl ⟨failure, failing, same, alike.trans alike'⟩
  · exact Or.inr ⟨answered, same, alike.gained gained⟩

/-- On a remote that holds texts, every outcome of a target is one of the six. -/
theorem Outcome.fares {result : Except RunError Item} {exchanges : List Exchange}
    (texts : remote.HoldsTexts) (fits : (Task.converge target).Fits target.kind)
    (outcome : target.Outcome client dryRun remote result exchanges after) :
    ∃ item, result = .ok item ∧ target.Fares dryRun remote item exchanges after := by
  cases outcome with
  | lookupFailed called =>
      rcases find_cases texts called with
        ⟨failure, failing, same⟩ | ⟨-, ⟨id, -, same⟩ | ⟨-, same⟩⟩
      · cases same
        exact ⟨_, rfl, .lookupFailed failing (alike_of_find called)⟩
      · cases same
      · cases same
  | found present called =>
      rcases find_cases texts called with
        ⟨failure, -, same⟩ | ⟨answered, ⟨id, stored, same⟩ | ⟨-, same⟩⟩
      · cases same
      · cases same
        exact ⟨_, rfl, .found answered stored (alike_of_find called)⟩
      · cases same
        exact absurd rfl present
  | unplanned called plan =>
      obtain ⟨alike, missed⟩ := missed_of_find texts called
      exact ⟨_, rfl, .unplanned missed plan alike⟩
  | skipped called plan dry =>
      obtain ⟨alike, missed⟩ := missed_of_find texts called
      exact ⟨_, rfl, .skipped missed plan dry alike⟩
  | refused called plan wet made =>
      obtain ⟨alike, missed⟩ := missed_of_find texts called
      obtain ⟨-, -, ⟨failure, failing, same, alike'⟩ | ⟨-, same, -⟩⟩ :=
        create_of_missed fits missed alike plan made
      · cases same
        exact ⟨_, rfl, .refused missed plan wet failing alike'⟩
      · cases same
  | created called plan wet made =>
      obtain ⟨alike, missed⟩ := missed_of_find texts called
      obtain ⟨kind, name, ⟨failure, -, same, -⟩ | ⟨answered, same, gained⟩⟩ :=
        create_of_missed fits missed alike plan made
      · cases same
      · cases same
        exact ⟨_, rfl, .created missed plan wet answered kind name gained⟩

end Target

/-! ## A run only adds objects -/

/-- The names under which objects of a kind were created. -/
def createdNames (kind : ObjectKind) (exchanges : List Exchange) : List String :=
  exchanges.filterMap fun
    | .create payload (.ok _) => if payload.kind = kind then some payload.name else none
    | _ => none

theorem createdNames_append (kind : ObjectKind) (exchanges later : List Exchange) :
    createdNames kind (exchanges ++ later) =
      createdNames kind exchanges ++ createdNames kind later :=
  List.filterMap_append

/-- What was stored stays as it was, and what comes new was created by the exchanges. -/
structure MemoryRemote.Growth (remote : MemoryRemote) (exchanges : List Exchange)
    (after : MemoryRemote) : Prop where
  failures : after.failures = remote.failures
  names : ∀ kind,
    (after.store kind).names = (remote.store kind).names ++ createdNames kind exchanges
  retains : ∀ {kind name value},
    (remote.store kind).get? name = some value → (after.store kind).get? name = some value
  texts : remote.HoldsTexts → after.HoldsTexts

namespace MemoryRemote

variable {remote after : MemoryRemote} {exchanges : List Exchange}

theorem composable_growth : Composable Growth where
  refl remote := ⟨rfl, fun kind => (List.append_nil _).symm, id, id⟩
  trans first second :=
    { failures := second.failures.trans first.failures
      names := fun kind => by
        rw [second.names, first.names, createdNames_append, List.append_assoc]
      retains := fun stored => second.retains (first.retains stored)
      texts := fun texts => second.texts (first.texts texts) }

theorem Alike.growth (alike : remote.Alike after)
    (nothing : ∀ kind, createdNames kind exchanges = []) : remote.Growth exchanges after where
  failures := alike.failures
  names kind := by rw [alike.store, nothing, List.append_nil]
  retains stored := by rw [alike.store, stored]
  texts texts kind := by
    rw [alike.store]
    exact texts kind

theorem Gained.growth {kind : ObjectKind} {name : String} (gained : Gained kind name remote after)
    (one : ∀ other, createdNames other exchanges = if other = kind then [name] else []) :
    remote.Growth exchanges after where
  failures := gained.failures
  names other := by
    rw [one]
    by_cases same : other = kind
    · subst same
      rw [gained.store, OrderedMap.names_insert,
        if_neg (OrderedMap.get?_eq_none_iff.mp gained.absent), if_pos rfl]
    · rw [gained.others other same, if_neg same, List.append_nil]
  retains := by
    intro other name' value stored
    by_cases same : other = kind
    · subst same
      have differ : name' ≠ name := by
        rintro rfl
        rw [gained.absent] at stored
        cases stored
      rw [gained.store, OrderedMap.get?_insert_of_ne _ _ differ, stored]
    · rw [gained.others other same, stored]
  texts texts := texts.of_insert gained.store gained.others

end MemoryRemote

theorem Target.Fares.growth {dryRun : Bool} {target : Target} {remote after : MemoryRemote}
    {item : Item} {exchanges : List Exchange}
    (fares : target.Fares dryRun remote item exchanges after) : remote.Growth exchanges after := by
  cases fares with
  | lookupFailed _ alike => exact alike.growth fun _ => rfl
  | found _ _ alike => exact alike.growth fun _ => rfl
  | unplanned _ _ alike => exact alike.growth fun _ => rfl
  | skipped _ _ _ alike => exact alike.growth fun _ => rfl
  | refused _ _ _ _ alike => exact alike.growth fun _ => rfl
  | created _ _ _ _ kind name gained =>
      refine gained.growth fun other => ?_
      by_cases same : other = target.kind
      · simp [createdNames, Target.lookup, kind, name, same]
      · simp [createdNames, Target.lookup, kind, same, Ne.symm same]

theorem Task.Fares.growth {dryRun : Bool} {task : Task} {remote after : MemoryRemote}
    {item : Item} {exchanges : List Exchange}
    (fares : task.Fares dryRun remote item exchanges after) : remote.Growth exchanges after := by
  cases fares with
  | settled item log => exact MemoryRemote.composable_growth.refl remote
  | converge fares => exact fares.growth

theorem Passage.growth {dryRun : Bool} {tasks : List Task} {remote after : MemoryRemote}
    {items : List Item} {exchanges : List Exchange}
    (passage : Passage dryRun remote tasks items exchanges after) :
    remote.Growth exchanges after := by
  induction passage with
  | done remote => exact MemoryRemote.composable_growth.refl remote
  | next first _ ih => exact MemoryRemote.composable_growth.trans first.growth ih

/-! ## Runs -/

open MemoryRemote

/-- On a remote that holds texts, the tasks of a stage always come to items. -/
theorem Sweep.passage {dryRun : Bool} {tasks : List Task} {remote after : MemoryRemote}
    {result : Except RunError (List Item)} {exchanges : List Exchange}
    (texts : remote.HoldsTexts) (fits : ∀ task ∈ tasks, ∃ kind, task.Fits kind)
    (sweep : Sweep client dryRun remote tasks result exchanges after) :
    ∃ items, result = .ok items ∧ Passage dryRun remote tasks items exchanges after := by
  have fares : ∀ {task : Task} {remote after : MemoryRemote} {result exchanges},
      remote.HoldsTexts → (∃ kind, task.Fits kind) →
        Task.Step client dryRun remote task result exchanges after →
        ∃ item, result = .ok item ∧ task.Fares dryRun remote item exchanges after := by
    rintro task remote after result exchanges texts ⟨kind, fits⟩ step
    cases step with
    | settled item log => exact ⟨item, rfl, .settled item log⟩
    | converge outcome =>
        obtain ⟨item, same, fares⟩ := outcome.fares texts (fits.1 ▸ fits)
        exact ⟨item, same, .converge fares⟩
  induction sweep with
  | done remote => exact ⟨[], rfl, .done remote⟩
  | halt first =>
      obtain ⟨item, same, -⟩ := fares texts (fits _ List.mem_cons_self) first
      cases same
  | next first _ ih =>
      obtain ⟨item, same, fare⟩ := fares texts (fits _ List.mem_cons_self) first
      cases same
      obtain ⟨items, rfl, passage⟩ := ih (fare.growth.texts texts)
        fun task member => fits task (List.mem_cons_of_mem _ member)
      exact ⟨_, rfl, .next fare passage⟩

/-- A run on a remote in memory: its four stages, each on the remote that the stage before has
left. -/
inductive Visit (dryRun : Bool) (settings : SchemaSettings) (m : Model) (remote : MemoryRemote) :
    Summary → List Exchange → MemoryRemote → Prop
  | stages {optionSets tables relationships userRelationships : List Item}
      {first second third fourth : List Exchange}
      {afterOptionSets afterTables afterRelationships after : MemoryRemote} :
      Passage dryRun remote (optionSetTasks settings m) optionSets first afterOptionSets →
      Passage dryRun afterOptionSets
        (tableTasks settings (Registry.identifiersOf optionSets) m) tables second afterTables →
      Passage dryRun afterTables (relationshipTasks settings [] m.relationships) relationships
        third afterRelationships →
      Passage dryRun afterRelationships (relationshipTasks settings [] m.userRelationships)
        userRelationships fourth after →
      Visit dryRun settings m remote
        (.ofItems m.diagnostics dryRun optionSets tables relationships userRelationships)
        (first ++ (second ++ (third ++ fourth))) after

theorem Journey.passage {dryRun : Bool} {settings : SchemaSettings} {m : Model} {stage : Stage}
    {stages : List Stage} {summary : Summary} {remote after : MemoryRemote}
    {result : Except RunError Summary} {exchanges : List Exchange} (texts : remote.HoldsTexts)
    (journey : Journey client dryRun settings m (stage :: stages) summary remote result exchanges
      after) :
    ∃ items now middle later,
      Passage dryRun remote (stage.tasks settings summary.registry.optionSets m) items now middle ∧
      middle.HoldsTexts ∧ exchanges = now ++ later ∧
      Journey client dryRun settings m stages (summary.withStage (.ofItems stage.kind items)) middle
        result later after := by
  cases journey with
  | halt sweep =>
      obtain ⟨items, same, -⟩ := sweep.passage texts fun task member => ⟨_, Stage.fits member⟩
      cases same
  | next sweep rest =>
      obtain ⟨items, same, passage⟩ :=
        sweep.passage texts fun task member => ⟨_, Stage.fits member⟩
      cases same
      exact ⟨_, _, _, _, passage, passage.growth.texts texts, rfl, rest⟩

/-- On a remote that holds texts, every run comes to a summary. -/
theorem Model.visit (m : Model) (settings : SchemaSettings) (dryRun : Bool)
    {remote : MemoryRemote} (texts : remote.HoldsTexts) :
    ∃ summary,
      (m.deploy (some client) settings dryRun remote).result = .ok summary ∧
      Visit dryRun settings m remote summary (m.exchanges client settings dryRun remote)
        (m.deploy (some client) settings dryRun remote).state := by
  obtain ⟨optionSets, _, _, _, first, texts₁, split₁, rest₁⟩ :=
    (m.journey client settings dryRun remote).passage texts
  obtain ⟨tables, _, _, _, second, texts₂, split₂, rest₂⟩ := rest₁.passage texts₁
  obtain ⟨relationships, _, _, _, third, texts₃, split₃, rest₃⟩ := rest₂.passage texts₂
  obtain ⟨userRelationships, _, _, _, fourth, -, split₄, rest₄⟩ := rest₃.passage texts₃
  rw [Stage.kind, Summary.registry_optionSets_start] at second
  rw [split₁, split₂, split₃, split₄]
  generalize (m.deploy (some client) settings dryRun remote).result = result at rest₄
  generalize (m.deploy (some client) settings dryRun remote).state = after at rest₄
  cases rest₄ with
  | done =>
      rw [List.append_nil]
      exact ⟨_, rfl, .stages first second third fourth⟩

theorem Visit.growth {dryRun : Bool} {settings : SchemaSettings} {m : Model}
    {remote after : MemoryRemote} {summary : Summary} {exchanges : List Exchange}
    (visit : Visit dryRun settings m remote summary exchanges after) :
    remote.Growth exchanges after := by
  obtain ⟨first, second, third, fourth⟩ := visit
  exact composable_growth.trans first.growth (composable_growth.trans second.growth
    (composable_growth.trans third.growth fourth.growth))

/-! ## What a stage leaves -/

theorem Passage.length_items {dryRun : Bool} {tasks : List Task} {items : List Item}
    {remote after : MemoryRemote} {exchanges : List Exchange}
    (passage : Passage dryRun remote tasks items exchanges after) :
    items.length = tasks.length := by
  induction passage with
  | done remote => rfl
  | next _ _ ih => rw [List.length_cons, List.length_cons, ih]

theorem Passage.append {dryRun : Bool} {tasks later : List Task} {items others : List Item}
    {remote middle after : MemoryRemote} {exchanges exchanges' : List Exchange}
    (first : Passage dryRun remote tasks items exchanges middle)
    (second : Passage dryRun middle later others exchanges' after) :
    Passage dryRun remote (tasks ++ later) (items ++ others) (exchanges ++ exchanges') after := by
  induction first with
  | done remote => exact second
  | next fares _ ih =>
      rw [List.append_assoc]
      exact .next fares (ih second)

theorem Passage.append_inv {dryRun : Bool} {earlier later : List Task} {items : List Item}
    {remote after : MemoryRemote} {exchanges : List Exchange}
    (passage : Passage dryRun remote (earlier ++ later) items exchanges after) :
    ∃ front back exchanges₁ exchanges₂ middle,
      items = front ++ back ∧ front.length = earlier.length ∧
      Passage dryRun remote earlier front exchanges₁ middle ∧
      Passage dryRun middle later back exchanges₂ after := by
  induction earlier generalizing remote items exchanges with
  | nil => exact ⟨[], items, [], exchanges, remote, rfl, rfl, .done remote, passage⟩
  | cons task earlier ih =>
      cases passage with
      | next first rest =>
          obtain ⟨front, back, _, _, middle, rfl, length, before, behind⟩ := ih rest
          exact ⟨_ :: front, back, _, _, middle, rfl, congrArg Nat.succ length,
            .next first before, behind⟩

/-- The item of a task, with what was done before the task and what was done after it. -/
theorem Passage.item_at {dryRun : Bool} {earlier later : List Task} {task : Task}
    {items : List Item} {remote after : MemoryRemote} {exchanges : List Exchange}
    (passage : Passage dryRun remote (earlier ++ task :: later) items exchanges after) :
    ∃ item front back past now future start finish, items[earlier.length]? = some item ∧
      Passage dryRun remote earlier front past start ∧
      task.Fares dryRun start item now finish ∧
      Passage dryRun finish later back future after := by
  obtain ⟨front, back, _, _, _, rfl, length, before, behind⟩ := passage.append_inv
  cases behind with
  | @next _ _ _ item _ _ back _ _ fares rest =>
      have here : (front ++ item :: back)[earlier.length]? = some item := by
        rw [← length, List.getElem?_append_right (Nat.le_refl _), Nat.sub_self,
          List.getElem?_cons_zero]
      exact ⟨item, _, _, _, _, _, _, _, here, before, fares, rest⟩

section

variable {dryRun : Bool} {remote after : MemoryRemote} {exchanges : List Exchange}
  {kind : ObjectKind} {name : String}

/-- A task adds the object that it can bring about, unless the run is dry or a call fails. -/
theorem Task.Fares.mem_names_iff {task : Task} {item : Item}
    (fares : task.Fares dryRun remote item exchanges after)
    (answered : remote.failures.lookup (.find name) = none) :
    name ∈ (after.store kind).names ↔ name ∈ (remote.store kind).names ∨
      dryRun = false ∧ remote.failures.lookup (.create name) = none ∧ task.Brings kind name := by
  -- In all cases but the last nothing comes new, and nothing absent could be brought about.
  have quiet : remote.Alike after →
      (dryRun = false → remote.failures.lookup (.create name) = none → task.Brings kind name →
        name ∈ (remote.store kind).names) →
      (name ∈ (after.store kind).names ↔ name ∈ (remote.store kind).names ∨
        dryRun = false ∧ remote.failures.lookup (.create name) = none ∧
          task.Brings kind name) := by
    intro alike idle
    rw [alike.store]
    constructor
    · exact Or.inl
    · rintro (stored | ⟨wet, accepted, brings⟩)
      · exact stored
      · exact idle wet accepted brings
  cases fares with
  | settled item log => exact quiet ⟨fun _ => rfl, rfl, rfl⟩ fun _ _ brings => brings.elim
  | @converge target _ _ _ fares =>
      cases fares with
      | lookupFailed failing alike =>
          refine quiet alike fun _ _ ⟨_, _, same⟩ => ?_
          rw [← same, failing] at answered
          cases answered
      | found _ stored alike =>
          refine quiet alike fun _ _ ⟨_, sameKind, sameName⟩ => ?_
          rw [← sameKind, ← sameName]
          exact OrderedMap.mem_names_of_get? stored
      | unplanned _ plan alike =>
          refine quiet alike fun _ _ ⟨⟨_, planned⟩, _, _⟩ => ?_
          rw [plan] at planned
          cases planned
      | skipped _ _ dry alike =>
          refine quiet alike fun wet _ _ => ?_
          rw [dry] at wet
          cases wet
      | refused _ _ _ failing alike =>
          refine quiet alike fun _ accepted ⟨_, _, same⟩ => ?_
          rw [← same, failing] at accepted
          cases accepted
      | created _ plan wet accepted _ _ gained =>
          rw [gained.mem_names_iff]
          constructor
          · rintro (stored | ⟨sameKind, sameName⟩)
            · exact Or.inl stored
            · subst sameName
              exact Or.inr ⟨wet, accepted, ⟨_, plan⟩, sameKind, rfl⟩
          · rintro (stored | ⟨-, -, -, same⟩)
            · exact Or.inl stored
            · exact Or.inr same

/-- What is stored after a stage was stored before it, or one of its tasks brings it about. -/
theorem Passage.mem_names_iff {tasks : List Task} {items : List Item}
    (passage : Passage dryRun remote tasks items exchanges after)
    (answered : remote.failures.lookup (.find name) = none) :
    name ∈ (after.store kind).names ↔ name ∈ (remote.store kind).names ∨
      dryRun = false ∧ remote.failures.lookup (.create name) = none ∧
        ∃ task ∈ tasks, task.Brings kind name := by
  induction passage with
  | done remote => simp
  | @next remote task tasks _ _ middle _ _ _ fares _ ih =>
      have failures := fares.growth.failures
      rw [ih (failures ▸ answered), fares.mem_names_iff answered, failures, or_assoc]
      refine or_congr_right ⟨?_, ?_⟩
      · rintro (⟨wet, accepted, here⟩ | ⟨wet, accepted, other, among, there⟩)
        · exact ⟨wet, accepted, task, List.mem_cons_self, here⟩
        · exact ⟨wet, accepted, other, List.mem_cons_of_mem _ among, there⟩
      · rintro ⟨wet, accepted, other, among, there⟩
        rcases List.mem_cons.mp among with rfl | later
        · exact Or.inl ⟨wet, accepted, there⟩
        · exact Or.inr ⟨wet, accepted, other, later, there⟩

end

/-! ## What a run creates -/

/-- What was created had a plan. -/
theorem Passage.declared {dryRun : Bool} {tasks : List Task} {items : List Item}
    {remote after : MemoryRemote} {exchanges : List Exchange} {kind : ObjectKind} {name : String}
    (passage : Passage dryRun remote tasks items exchanges after)
    (created : name ∈ createdNames kind exchanges) :
    ∃ target, Task.converge target ∈ tasks ∧ target.IsPlanned ∧ target.kind = kind ∧
      target.name = name := by
  induction passage with
  | done remote => cases created
  | @next remote task tasks item exchanges middle items later after fares rest ih =>
      rw [createdNames_append, List.mem_append] at created
      rcases created with here | there
      · cases fares with
        | settled item log => cases here
        | @converge target _ _ _ fares =>
            cases fares with
            | lookupFailed _ _ => cases here
            | found _ _ _ => cases here
            | unplanned _ _ _ => cases here
            | skipped _ _ _ _ => cases here
            | refused _ _ _ _ _ => cases here
            | created missed plan wet answered sameKind sameName gained =>
                have found : target.kind = kind ∧ target.name = name := by
                  simpa [createdNames, Target.lookup, sameKind, sameName] using here
                exact ⟨target, List.mem_cons_self, ⟨_, plan⟩, found⟩
      · obtain ⟨target, among, found⟩ := ih there
        exact ⟨target, List.mem_cons_of_mem _ among, found⟩

/-- What a run creates is declared by its model. -/
theorem Visit.declared {dryRun : Bool} {settings : SchemaSettings} {m : Model}
    {remote after : MemoryRemote} {summary : Summary} {exchanges : List Exchange}
    {kind : ObjectKind} {name : String}
    (visit : Visit dryRun settings m remote summary exchanges after)
    (created : name ∈ createdNames kind exchanges) : m.Declares settings kind name := by
  obtain ⟨first, second, third, fourth⟩ := visit
  simp only [createdNames_append, List.mem_append] at created
  rcases created with created | created | created | created
  · exact ⟨.optionSets, .empty, first.declared created⟩
  · exact ⟨.tables, _, second.declared created⟩
  · exact ⟨.tableRelationships, .empty, third.declared created⟩
  · exact ⟨.userRelationships, .empty, fourth.declared created⟩

end ErdDeploy
