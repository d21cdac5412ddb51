import ErdDeploy.Deployment.Run

/-!
What passes between a run and the remote.

`Client.recording` is a client that keeps every call with its answer, and
`Model.exchanges` is what it has kept at the end of a run. The relations
`Target.Outcome`, `Task.Step`, `Sweep` and `Journey` say once what an object, a
task, a stage and a run can do with any client whatsoever: which result they come
to, which exchanges they make, and which state they leave. `Model.journey` places
every run in them, so that no later proof looks into the definition of a run.

A relation between two states that is kept by every task is kept by a run
(`Journey.lift`).
-/

namespace ErdDeploy

/-- A call with its answer. -/
inductive Exchange
  | find (kind : ObjectKind) (name : String) (answer : Except ClientError RemoteId)
  | create (payload : Payload) (answer : Except ClientError RemoteId)

namespace Exchange

/-- The kind of objects that the call is about. -/
def kind : Exchange → ObjectKind
  | .find kind _ _ => kind
  | .create payload _ => payload.kind

/-- Whether the call asks for a creation. -/
def isCreation : Exchange → Bool
  | .find .. => false
  | .create .. => true

end Exchange

/-- The client that keeps every call with its answer beside the state. -/
def Client.recording {σ : Type} (client : Client σ) : Client (σ × List Exchange) where
  find kind name state :=
    let found := client.find kind name state.1
    ⟨found.result, found.log, found.state, state.2 ++ [.find kind name found.result]⟩
  create payload state :=
    let made := client.create payload state.1
    ⟨made.result, made.log, made.state, state.2 ++ [.create payload made.result]⟩

/-- The exchanges of a run. -/
def Model.exchanges {σ : Type} (m : Model) (client : Client σ) (settings : SchemaSettings)
    (dryRun : Bool) (state : σ) : List Exchange :=
  (m.deploy (some client.recording) settings dryRun (state, [])).state.2

/-! ## Objects -/

namespace Target

/-- The exchange that looks the target up. -/
def lookup (target : Target) (answer : Except ClientError RemoteId) : Exchange :=
  .find target.kind target.name answer

/-- What a call without a result comes to. -/
def ofError (target : Target) : ClientError → Except RunError Item
  | .failure failure => .ok (.failed target.label failure.message)
  | .fault fault => .error (.fault fault)

/-- What a target that was found comes to. -/
def ofFound (target : Target) : RemoteId → Except RunError Item
  | .text id => .ok (.existing target.name id)
  | _ => .error .identifierNotText

/-- What a target that was created comes to. -/
def ofCreated (target : Target) : RemoteId → Except RunError Item
  | .text id => .ok (.created target.name (some id))
  | .absent => .ok (.created target.name none)
  | .other _ => .error .identifierNotText

/-- How converging a target goes: its result, its exchanges and the state it leaves. -/
inductive Outcome {σ : Type} (client : Client σ) (dryRun : Bool) (target : Target)
    (state : σ) : Except RunError Item → List Exchange → σ → Prop
  | lookupFailed {error log after} :
      client.find target.kind target.name state = ⟨.error error, log, after⟩ →
      Outcome client dryRun target state (target.ofError error)
        [target.lookup (.error error)] after
  | found {id log after} :
      id ≠ .absent →
      client.find target.kind target.name state = ⟨.ok id, log, after⟩ →
      Outcome client dryRun target state (target.ofFound id) [target.lookup (.ok id)] after
  | unplanned {missing log after} :
      client.find target.kind target.name state = ⟨.ok .absent, log, after⟩ →
      target.plan = .error missing →
      Outcome client dryRun target state (.ok (.failed target.label missing.message))
        [target.lookup (.ok .absent)] after
  | skipped {planned log after} :
      client.find target.kind target.name state = ⟨.ok .absent, log, after⟩ →
      target.plan = .ok planned →
      dryRun = true →
      Outcome client dryRun target state (.ok (.skipped target.name "would create"))
        [target.lookup (.ok .absent)] after
  | refused {payload warnings log middle error log' after} :
      client.find target.kind target.name state = ⟨.ok .absent, log, middle⟩ →
      target.plan = .ok (payload, warnings) →
      dryRun = false →
      client.create payload middle = ⟨.error error, log', after⟩ →
      Outcome client dryRun target state (target.ofError error)
        [target.lookup (.ok .absent), .create payload (.error error)] after
  | created {payload warnings log middle id log' after} :
      client.find target.kind target.name state = ⟨.ok .absent, log, middle⟩ →
      target.plan = .ok (payload, warnings) →
      dryRun = false →
      client.create payload middle = ⟨.ok id, log', after⟩ →
      Outcome client dryRun target state (target.ofCreated id)
        [target.lookup (.ok .absent), .create payload (.ok id)] after

/-- In any case there is one lookup, and at most one creation after it, of what was planned. -/
theorem Outcome.shape {σ : Type} {client : Client σ} {dryRun : Bool} {target : Target}
    {state after : σ} {result : Except RunError Item} {exchanges : List Exchange}
    (outcome : target.Outcome client dryRun state result exchanges after) :
    (∃ answer, exchanges = [target.lookup answer]) ∨
      dryRun = false ∧ ∃ payload warnings answer, target.plan = .ok (payload, warnings) ∧
        exchanges = [target.lookup (.ok .absent), .create payload answer] := by
  cases outcome with
  | lookupFailed _ => exact Or.inl ⟨_, rfl⟩
  | found _ _ => exact Or.inl ⟨_, rfl⟩
  | unplanned _ _ => exact Or.inl ⟨_, rfl⟩
  | skipped _ _ _ => exact Or.inl ⟨_, rfl⟩
  | refused _ plan wet _ => exact Or.inr ⟨wet, _, _, _, plan, rfl⟩
  | created _ plan wet _ => exact Or.inr ⟨wet, _, _, _, plan, rfl⟩

end Target

/-- The same result and log above another state. -/
def Performed.under {σ τ ε α : Type} (done : Performed σ ε α) (state : τ) : Performed τ ε α :=
  ⟨done.result, done.log, state⟩

/-- The client that a run creates with, if it creates at all. -/
def Client.creator {σ : Type} (client : Client σ) (dryRun : Bool) : Option (Client σ) :=
  if dryRun then none else some client

namespace Target

variable {σ : Type} {client : Client σ} {target : Target} {state middle : σ}
  {log : List LogEntry}

/-- Bringing about a target that was not found goes in one of the ways of `Outcome`, and
keeping the exchanges changes nothing about it. -/
theorem bringAbout_outcome (dryRun : Bool) (past : List Exchange)
    (found : client.find target.kind target.name state = ⟨.ok .absent, log, middle⟩) :
    ∃ exchanges,
      target.Outcome client dryRun state
        (target.bringAbout (client.creator dryRun) log middle).result
        (target.lookup (.ok .absent) :: exchanges)
        (target.bringAbout (client.creator dryRun) log middle).state ∧
      target.bringAbout (client.recording.creator dryRun) log (middle, past) =
        (target.bringAbout (client.creator dryRun) log middle).under
          ((target.bringAbout (client.creator dryRun) log middle).state, past ++ exchanges) := by
  rcases plan : target.plan with missing | ⟨payload, warnings⟩
  · simp only [bringAbout, plan]
    exact ⟨[], .unplanned found plan, by simp [fail, Performed.under]⟩
  · cases dryRun with
    | true =>
        simp only [bringAbout, plan, Client.creator]
        exact ⟨[], .skipped found plan rfl, by simp [Performed.under]⟩
    | false =>
        rcases made : client.create payload middle with ⟨answer, log', after⟩
        have recorded : client.recording.create payload (middle, past) =
            ⟨answer, log', after, past ++ [.create payload answer]⟩ := by
          simp only [Client.recording, made]
        simp only [bringAbout, plan, Client.creator, Bool.false_eq_true, if_false, create,
          made, recorded]
        cases answer with
        | error error =>
            cases error with
            | failure failure => exact ⟨_, .refused found plan rfl made, rfl⟩
            | fault fault => exact ⟨_, .refused found plan rfl made, rfl⟩
        | ok id =>
            cases id with
            | absent => exact ⟨_, .created found plan rfl made, rfl⟩
            | text id => exact ⟨_, .created found plan rfl made, rfl⟩
            | other value => exact ⟨_, .created found plan rfl made, rfl⟩

/-- Converging goes in one of the ways of `Outcome`, and keeping the exchanges changes nothing
about it. -/
theorem converge_outcome (client : Client σ) (dryRun : Bool) (target : Target) (state : σ)
    (past : List Exchange) :
    ∃ exchanges,
      target.Outcome client dryRun state
        (target.converge client (client.creator dryRun) state).result exchanges
        (target.converge client (client.creator dryRun) state).state ∧
      target.converge client.recording (client.recording.creator dryRun) (state, past) =
        (target.converge client (client.creator dryRun) state).under
          ((target.converge client (client.creator dryRun) state).state, past ++ exchanges) := by
  rcases found : client.find target.kind target.name state with ⟨answer, log, middle⟩
  have recorded : client.recording.find target.kind target.name (state, past) =
      ⟨answer, log, middle, past ++ [target.lookup answer]⟩ := by
    simp only [Client.recording, found, lookup]
  simp only [converge, found, recorded]
  cases answer with
  | error error =>
      cases error with
      | failure failure => exact ⟨_, .lookupFailed found, rfl⟩
      | fault fault => exact ⟨_, .lookupFailed found, rfl⟩
  | ok id =>
      cases id with
      | text id => exact ⟨_, .found (by simp) found, rfl⟩
      | other value => exact ⟨_, .found (by simp) found, rfl⟩
      | absent =>
          obtain ⟨exchanges, outcome, same⟩ :=
            bringAbout_outcome dryRun (past ++ [target.lookup (.ok .absent)]) found
          refine ⟨_, outcome, same.trans ?_⟩
          rw [List.append_assoc, List.singleton_append]

end Target

/-! ## Tasks, stages and runs -/

/-- How a task goes. -/
inductive Task.Step {σ : Type} (client : Client σ) (dryRun : Bool) (state : σ) :
    Task → Except RunError Item → List Exchange → σ → Prop
  | settled (item : Item) (log : List LogEntry) :
      Step client dryRun state (.settled item log) (.ok item) [] state
  | converge {target : Target} {result exchanges after} :
      target.Outcome client dryRun state result exchanges after →
      Step client dryRun state (.converge target) result exchanges after

/-- How tasks go one after the other. -/
inductive Sweep {σ : Type} (client : Client σ) (dryRun : Bool) :
    σ → List Task → Except RunError (List Item) → List Exchange → σ → Prop
  | done (state : σ) : Sweep client dryRun state [] (.ok []) [] state
  | halt {state task tasks error exchanges after} :
      Task.Step client dryRun state task (.error error) exchanges after →
      Sweep client dryRun state (task :: tasks) (.error error) exchanges after
  | next {state task tasks item exchanges middle result later after} :
      Task.Step client dryRun state task (.ok item) exchanges middle →
      Sweep client dryRun middle tasks result later after →
      Sweep client dryRun state (task :: tasks) (result.map (item :: ·)) (exchanges ++ later)
        after

/-- How stages go one after the other. Each is given the option sets that the summary knows
when it begins. -/
inductive Journey {σ : Type} (client : Client σ) (dryRun : Bool) (settings : SchemaSettings)
    (m : Model) :
    List Stage → Summary → σ → Except RunError Summary → List Exchange → σ → Prop
  | done (summary : Summary) (state : σ) :
      Journey client dryRun settings m [] summary state (.ok summary) [] state
  | halt {stage stages summary state error exchanges after} :
      Sweep client dryRun state (stage.tasks settings summary.registry.optionSets m)
        (.error error) exchanges after →
      Journey client dryRun settings m (stage :: stages) summary state (.error error) exchanges
        after
  | next {stage stages summary state items exchanges middle result later after} :
      Sweep client dryRun state (stage.tasks settings summary.registry.optionSets m)
        (.ok items) exchanges middle →
      Journey client dryRun settings m stages (summary.withStage (.ofItems stage.kind items))
        middle result later after →
      Journey client dryRun settings m (stage :: stages) summary state result
        (exchanges ++ later) after

section

variable {σ : Type} (client : Client σ) (dryRun : Bool)

theorem Task.perform_step (task : Task) (state : σ) (past : List Exchange) :
    ∃ exchanges,
      Task.Step client dryRun state task
        (task.perform (.of (some client) dryRun) state).result exchanges
        (task.perform (.of (some client) dryRun) state).state ∧
      task.perform (.of (some client.recording) dryRun) (state, past) =
        (task.perform (.of (some client) dryRun) state).under
          ((task.perform (.of (some client) dryRun) state).state, past ++ exchanges) := by
  cases task with
  | settled item log => exact ⟨[], .settled item log, by simp [perform, Performed.under]⟩
  | converge target =>
      obtain ⟨exchanges, outcome, same⟩ :=
        target.converge_outcome client dryRun state past
      cases dryRun with
      | true => exact ⟨exchanges, .converge outcome, same⟩
      | false => exact ⟨exchanges, .converge outcome, same⟩

theorem performAll_sweep (tasks : List Task) (state : σ) (past : List Exchange) :
    ∃ exchanges,
      Sweep client dryRun state tasks
        (performAll (.of (some client) dryRun) state tasks).result exchanges
        (performAll (.of (some client) dryRun) state tasks).state ∧
      performAll (.of (some client.recording) dryRun) (state, past) tasks =
        (performAll (.of (some client) dryRun) state tasks).under
          ((performAll (.of (some client) dryRun) state tasks).state, past ++ exchanges) := by
  induction tasks generalizing state past with
  | nil => exact ⟨[], .done state, by simp [performAll, Performed.under]⟩
  | cons task tasks ih =>
      obtain ⟨exchanges, step, same⟩ := task.perform_step client dryRun state past
      rcases done : task.perform (.of (some client) dryRun) state with ⟨result, log, middle⟩
      rw [done] at step same
      simp only [performAll, done, same, Performed.under]
      cases result with
      | error error => exact ⟨exchanges, .halt step, rfl⟩
      | ok item =>
          obtain ⟨later, sweep, same⟩ := ih middle (past ++ exchanges)
          refine ⟨exchanges ++ later, .next step sweep, ?_⟩
          simp only [same, Performed.under, List.append_assoc]

theorem runStages_journey (settings : SchemaSettings) (m : Model) (stages : List Stage)
    (summary : Summary) (state : σ) (past : List Exchange) :
    ∃ exchanges,
      Journey client dryRun settings m stages summary state
        (runStages (.of (some client) dryRun) settings m stages summary state).result exchanges
        (runStages (.of (some client) dryRun) settings m stages summary state).state ∧
      runStages (.of (some client.recording) dryRun) settings m stages summary (state, past) =
        (runStages (.of (some client) dryRun) settings m stages summary state).under
          ((runStages (.of (some client) dryRun) settings m stages summary state).state,
            past ++ exchanges) := by
  induction stages generalizing summary state past with
  | nil => exact ⟨[], .done summary state, by simp [runStages, Performed.under]⟩
  | cons stage stages ih =>
      obtain ⟨exchanges, sweep, same⟩ := performAll_sweep client dryRun
        (stage.tasks settings summary.registry.optionSets m) state past
      rcases done : performAll (.of (some client) dryRun) state
        (stage.tasks settings summary.registry.optionSets m) with ⟨result, log, middle⟩
      rw [done] at sweep same
      simp only [runStages, Stage.run, done, same, Performed.under]
      cases result with
      | error error => exact ⟨exchanges, .halt sweep, rfl⟩
      | ok items =>
          obtain ⟨later, journey, same⟩ :=
            ih (summary.withStage (.ofItems stage.kind items)) middle (past ++ exchanges)
          refine ⟨exchanges ++ later, .next sweep journey, ?_⟩
          simp only [Except.map, same, Performed.under, List.append_assoc]

end

namespace Model

variable {σ : Type} (m : Model) (client : Client σ) (settings : SchemaSettings) (dryRun : Bool)
  (state : σ)

/-- With a client at hand a run is its stages one after the other. -/
theorem deploy_eq_runStages : m.deploy (some client) settings dryRun state =
    runStages (.of (some client) dryRun) settings m Stage.all (.start m.diagnostics dryRun)
      state := by
  cases dryRun with
  | true => rfl
  | false => rfl

/-- Keeping the exchanges changes nothing about a run. -/
theorem deploy_recording : m.deploy (some client.recording) settings dryRun (state, []) =
    (m.deploy (some client) settings dryRun state).under
      ((m.deploy (some client) settings dryRun state).state,
        m.exchanges client settings dryRun state) := by
  obtain ⟨kept, -, same⟩ := runStages_journey client dryRun settings m Stage.all
    (.start m.diagnostics dryRun) state []
  simp only [exchanges, deploy_eq_runStages, same, Performed.under, List.nil_append]

/-- Every run is a journey through all stages. -/
theorem journey : Journey client dryRun settings m Stage.all (.start m.diagnostics dryRun) state
    (m.deploy (some client) settings dryRun state).result
    (m.exchanges client settings dryRun state)
    (m.deploy (some client) settings dryRun state).state := by
  obtain ⟨kept, journey, same⟩ := runStages_journey client dryRun settings m Stage.all
    (.start m.diagnostics dryRun) state []
  simpa only [exchanges, deploy_eq_runStages, same, Performed.under, List.nil_append]
    using journey

end Model

/-! ## From tasks to runs -/

/-- A relation between the state before, the exchanges and the state after that holds of doing
nothing and of two things one after the other. -/
structure Composable {σ : Type} (P : σ → List Exchange → σ → Prop) : Prop where
  refl (state : σ) : P state [] state
  trans {before : σ} {exchanges : List Exchange} {middle : σ} {later : List Exchange}
    {after : σ} : P before exchanges middle → P middle later after →
      P before (exchanges ++ later) after

section

variable {σ : Type} {client : Client σ} {dryRun : Bool} {P : σ → List Exchange → σ → Prop}

/-- What every task of a stage keeps, the stage keeps. -/
theorem Sweep.lift {state after : σ} {tasks : List Task} {result : Except RunError (List Item)}
    {exchanges : List Exchange} (composable : Composable P)
    (step : ∀ task ∈ tasks, ∀ {before result exchanges after},
      Task.Step client dryRun before task result exchanges after → P before exchanges after)
    (sweep : Sweep client dryRun state tasks result exchanges after) :
    P state exchanges after := by
  induction sweep with
  | done state => exact composable.refl state
  | halt first => exact step _ List.mem_cons_self first
  | next first _ ih =>
      exact composable.trans (step _ List.mem_cons_self first)
        (ih fun task member => step task (List.mem_cons_of_mem _ member))

/-- What every task of every stage keeps, a run keeps. -/
theorem Journey.lift {settings : SchemaSettings} {m : Model} {stages : List Stage}
    {summary : Summary} {state after : σ} {result : Except RunError Summary}
    {exchanges : List Exchange} (composable : Composable P)
    (step : ∀ (stage : Stage) ids, ∀ task ∈ stage.tasks settings ids m,
      ∀ {before result exchanges after},
        Task.Step client dryRun before task result exchanges after → P before exchanges after)
    (journey : Journey client dryRun settings m stages summary state result exchanges after) :
    P state exchanges after := by
  induction journey with
  | done summary state => exact composable.refl state
  | halt sweep => exact sweep.lift composable (step _ _)
  | next sweep _ ih => exact composable.trans (sweep.lift composable (step _ _)) ih

end

end ErdDeploy
