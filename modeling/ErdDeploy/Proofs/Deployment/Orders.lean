import ErdDeploy.Proofs.Deployment.Exchange
import ErdDeploy.Proofs.Deployment.Tasks

/-!
What a run asks for, and what it warns of.

The payloads from which objects were to be created are read off the exchanges of a
run (`orders`), and the warnings off its log (`warningsOf`). Both come from the plans
of its tasks: each creation that is asked for has its plan, and the warnings are
those of these plans, in their order. `Performed.Orders` says so of anything that is
done, and `runStages_orders` proves it of stages. The stage of tables plans with the
option sets that the run knows in the end, since no later stage adds any
(`runStages_optionSets`).
-/

namespace ErdDeploy

/-! ## Orders and warnings -/

/-- The payloads from which something was to be created, whatever came of it. -/
def orders (exchanges : List Exchange) : List Payload :=
  exchanges.filterMap fun
    | .find .. => none
    | .create payload _ => some payload

/-- The tables among some payloads. -/
def tablePayloads (payloads : List Payload) : List TablePayload :=
  payloads.filterMap fun
    | .table payload => some payload
    | _ => none

/-- The warnings of a log. -/
def warningsOf (log : List LogEntry) : List LogEntry :=
  log.filter fun entry => entry.level = .warning

theorem warningsOf_append (log later : List LogEntry) :
    warningsOf (log ++ later) = warningsOf log ++ warningsOf later :=
  List.filter_append ..

/-- A client whose calls log nothing. -/
structure Client.Quiet {σ : Type} (client : Client σ) : Prop where
  find : ∀ kind name state, (client.find kind name state).log = []
  create : ∀ payload state, (client.create payload state).log = []

/-- What was done after some exchanges asked for creations from some plans, in their order, and
warned of what these leave out and of nothing else. -/
structure Performed.Orders {σ ε α : Type} (past : List Exchange)
    (done : Performed (σ × List Exchange) ε α) (plans : List (Payload × List LogEntry)) :
    Prop where
  payloads : orders done.state.2 = orders past ++ plans.map Prod.fst
  warnings : warningsOf done.log = plans.flatMap fun plan => warningsOf plan.2

section

variable {σ ε α β : Type} {past : List Exchange}

theorem Performed.Orders.nothing {done : Performed (σ × List Exchange) ε α}
    (payloads : orders done.state.2 = orders past) (silent : warningsOf done.log = []) :
    done.Orders past [] where
  payloads := by rw [payloads, List.map_nil, List.append_nil]
  warnings := silent

/-- Two things one after the other. -/
theorem Performed.Orders.append {first : Performed (σ × List Exchange) ε α}
    {second done : Performed (σ × List Exchange) ε β} {plans later : List (Payload × List LogEntry)}
    (before : first.Orders past plans) (behind : second.Orders first.state.2 later)
    (log : warningsOf done.log = warningsOf first.log ++ warningsOf second.log)
    (state : done.state = second.state) : done.Orders past (plans ++ later) where
  payloads := by
    rw [state, behind.payloads, before.payloads, List.map_append, List.append_assoc]
  warnings := by rw [log, before.warnings, behind.warnings, List.flatMap_append]

variable {client : Client σ} {log : List LogEntry} (target : Target)

theorem Target.warningsOf_failureEntry (error : String) :
    warningsOf (log ++ [target.failureEntry error]) = warningsOf log := by
  rw [warningsOf_append]
  exact List.append_nil _

theorem Target.failCall_orders (error : ClientError) (silent : warningsOf log = [])
    (state : σ × List Exchange) : (target.failCall error log state).Orders state.2 [] := by
  cases error with
  | failure failure => exact .nothing rfl ((target.warningsOf_failureEntry _).trans silent)
  | fault fault => exact .nothing rfl silent

theorem Target.settleExisting_orders (id : RemoteId) (silent : warningsOf log = [])
    (state : σ × List Exchange) : (target.settleExisting id log state).Orders state.2 [] := by
  have quiet : warningsOf (log ++ [⟨.info, target.name ++ " already exists (" ++
      id.toValue.message ++ ")"⟩]) = [] := by
    rw [warningsOf_append, silent]
    rfl
  cases id <;> exact .nothing rfl quiet

/-- Whatever the creation of a payload comes to, it was asked for, and what was logged before
stays. -/
theorem Target.create_orders (quiet : client.Quiet) (payload : Payload) (log : List LogEntry)
    (state : σ × List Exchange) :
    orders (target.create client.recording payload log state).state.2 =
        orders state.2 ++ [payload] ∧
      warningsOf (target.create client.recording payload log state).log = warningsOf log := by
  have silent := quiet.create payload state.1
  simp only [create, Client.recording, silent, List.append_nil]
  cases (client.create payload state.1).result with
  | error error =>
      cases error with
      | failure failure => exact ⟨List.filterMap_append, target.warningsOf_failureEntry _⟩
      | fault fault => exact ⟨List.filterMap_append, rfl⟩
  | ok id =>
      have info : warningsOf (log ++ [⟨.info, "Created " ++ target.name ++ " (" ++
          id.toValue.message ++ ")"⟩]) = warningsOf log := by
        rw [warningsOf_append]
        exact List.append_nil _
      cases id <;> exact ⟨List.filterMap_append, info⟩

theorem Target.bringAbout_orders (quiet : client.Quiet) (silent : warningsOf log = [])
    (state : σ × List Exchange) :
    ∃ plans, (∀ plan ∈ plans, target.plan = .ok plan) ∧
      (target.bringAbout (some client.recording) log state).Orders state.2 plans := by
  cases planned : target.plan with
  | error missing =>
      refine ⟨[], by simp, ?_⟩
      simp only [bringAbout, planned]
      exact .nothing rfl ((target.warningsOf_failureEntry _).trans silent)
  | ok plan =>
      obtain ⟨payload, warnings⟩ := plan
      refine ⟨[(payload, warnings)], by simp, ?_⟩
      simp only [bringAbout, planned]
      obtain ⟨payloads, logged⟩ :=
        target.create_orders quiet payload (log ++ warnings) state
      refine ⟨payloads, logged.trans ?_⟩
      rw [warningsOf_append, silent]
      exact (List.append_nil _).symm

/-- What a target asks for comes from its plan. -/
theorem Target.converge_orders (quiet : client.Quiet) (state : σ × List Exchange) :
    ∃ plans, (∀ plan ∈ plans, target.plan = .ok plan) ∧
      (target.converge client.recording (some client.recording) state).Orders state.2 plans := by
  have silent : warningsOf (client.find target.kind target.name state.1).log = [] := by
    rw [quiet.find]
    rfl
  -- A lookup asks for no creation.
  have looked : ∀ answer, orders (state.2 ++ [.find target.kind target.name answer]) =
      orders state.2 := by
    intro answer
    rw [orders, List.filterMap_append]
    exact List.append_nil _
  have since : ∀ {done : Performed (σ × List Exchange) RunError Item} (answer) {plans},
      done.Orders (state.2 ++ [.find target.kind target.name answer]) plans →
        done.Orders state.2 plans :=
    fun answer _ asked => ⟨by rw [asked.payloads, looked], asked.warnings⟩
  simp only [converge, Client.recording]
  cases (client.find target.kind target.name state.1).result with
  | error error =>
      exact ⟨[], by simp, since (.error error) (target.failCall_orders error silent (_, _))⟩
  | ok id =>
      cases id with
      | absent =>
          obtain ⟨plans, planned, asked⟩ := target.bringAbout_orders quiet silent
            ((client.find target.kind target.name state.1).state,
              state.2 ++ [.find target.kind target.name (.ok .absent)])
          exact ⟨plans, planned, since _ asked⟩
      | text id =>
          exact ⟨[], by simp,
            since (.ok (.text id)) (target.settleExisting_orders (.text id) silent (_, _))⟩
      | other value =>
          exact ⟨[], by simp,
            since (.ok (.other value)) (target.settleExisting_orders (.other value) silent (_, _))⟩

omit target

/-- A settled task that warns of nothing. -/
def Task.Silent : Task → Prop
  | .settled _ log => warningsOf log = []
  | .converge _ => True

theorem Task.perform_orders (quiet : client.Quiet) {task : Task} (silent : task.Silent)
    (state : σ × List Exchange) :
    ∃ plans, (∀ plan ∈ plans, ∃ target, task = .converge target ∧ target.plan = .ok plan) ∧
      (task.perform (.full client.recording) state).Orders state.2 plans := by
  cases task with
  | settled item log => exact ⟨[], by simp, .nothing rfl silent⟩
  | converge target =>
      obtain ⟨plans, planned, asked⟩ := target.converge_orders quiet state
      exact ⟨plans, fun plan member => ⟨target, rfl, planned plan member⟩, asked⟩

/-- Tasks ask for creations from their plans. -/
theorem performAll_orders (quiet : client.Quiet) {tasks : List Task}
    (silent : ∀ task ∈ tasks, task.Silent) (state : σ × List Exchange) :
    ∃ plans, (∀ plan ∈ plans, ∃ target, Task.converge target ∈ tasks ∧ target.plan = .ok plan) ∧
      (performAll (.full client.recording) state tasks).Orders state.2 plans := by
  induction tasks generalizing state with
  | nil => exact ⟨[], by simp, .nothing rfl rfl⟩
  | cons task tasks ih =>
      obtain ⟨plans, planned, now⟩ :=
        task.perform_orders quiet (silent task List.mem_cons_self) state
      have here : ∀ plan ∈ plans,
          ∃ target, Task.converge target ∈ task :: tasks ∧ target.plan = .ok plan := by
        intro plan member
        obtain ⟨target, rfl, plan⟩ := planned plan member
        exact ⟨target, List.mem_cons_self, plan⟩
      rcases done : task.perform (.full client.recording) state with ⟨result, log, middle⟩
      rw [done] at now
      simp only [performAll, done]
      cases result with
      | error error => exact ⟨plans, here, ⟨now.payloads, now.warnings⟩⟩
      | ok item =>
          obtain ⟨later, planned', rest⟩ :=
            ih (fun task member => silent task (List.mem_cons_of_mem _ member)) middle
          refine ⟨plans ++ later, ?_, now.append rest (warningsOf_append _ _) rfl⟩
          intro plan member
          rcases List.mem_append.mp member with early | late
          · exact here plan early
          · obtain ⟨target, among, plan⟩ := planned' plan late
            exact ⟨target, List.mem_cons_of_mem _ among, plan⟩

/-! ## Stages and runs -/

section

variable {settings : SchemaSettings} {m : Model}

theorem silent_of_mem_relationshipTasks {rs : List Relationship} {before : List String}
    {task : Task} (member : task ∈ relationshipTasks settings before rs) : task.Silent := by
  obtain ⟨r, -, rfl | rfl⟩ := exists_of_mem_relationshipTasks member
  · rfl
  · trivial

theorem Stage.silent {stage : Stage} {ids : OrderedMap String} {task : Task}
    (member : task ∈ stage.tasks settings ids m) : task.Silent := by
  cases stage with
  | optionSets =>
      rw [tasks, optionSetTasks_eq, List.mem_map] at member
      obtain ⟨entry, -, rfl⟩ := member
      trivial
  | tables =>
      rw [tasks, tableTasks_eq, List.mem_map] at member
      obtain ⟨table, -, rfl⟩ := member
      unfold Task.ofTable
      split
      · rfl
      · trivial
  | tableRelationships => exact silent_of_mem_relationshipTasks member
  | userRelationships => exact silent_of_mem_relationshipTasks member

/-- Only the stage of option sets changes which option sets a run knows. -/
theorem runStages_optionSets {access : Access σ} {stages : List Stage} {summary final : Summary}
    {state : σ} (others : .optionSets ∉ stages)
    (ran : (runStages access settings m stages summary state).result = .ok final) :
    final.registry.optionSets = summary.registry.optionSets := by
  induction stages generalizing summary state with
  | nil =>
      cases ran
      rfl
  | cons stage stages ih =>
      rw [List.mem_cons, not_or] at others
      simp only [runStages, Stage.run] at ran
      cases done : (performAll access state
          (stage.tasks settings summary.registry.optionSets m)).result with
      | error error =>
          simp only [done, Except.map] at ran
          cases ran
      | ok items =>
          simp only [done, Except.map] at ran
          rw [ih others.2 ran]
          cases stage with
          | optionSets => exact absurd rfl others.1
          | tables => rfl
          | tableRelationships => rfl
          | userRelationships => rfl

/-- The stage has a plan, with the option sets that are known. -/
def Stage.Plans (stage : Stage) (settings : SchemaSettings) (ids : OrderedMap String) (m : Model)
    (plan : Payload × List LogEntry) : Prop :=
  ∃ target, Task.converge target ∈ stage.tasks settings ids m ∧ target.plan = .ok plan

/-- Stages ask for creations from their plans. If the stage of option sets is the first, the others
plan with the option sets that the run knows in the end. -/
theorem runStages_orders (quiet : client.Quiet) {stages : List Stage}
    (first : stages.Pairwise fun _ later => later ≠ .optionSets) (summary : Summary)
    (state : σ × List Exchange) :
    ∃ plans,
      (∀ plan ∈ plans, ∃ stage ∈ stages, ∃ ids, stage.Plans settings ids m plan ∧
        (stage ≠ .optionSets → ∀ final,
          (runStages (.full client.recording) settings m stages summary state).result =
            .ok final → ids = final.registry.optionSets)) ∧
      (runStages (.full client.recording) settings m stages summary state).Orders state.2
        plans := by
  induction stages generalizing summary state with
  | nil => exact ⟨[], by simp, .nothing rfl rfl⟩
  | cons stage stages ih =>
      obtain ⟨others, first⟩ := List.pairwise_cons.mp first
      obtain ⟨plans, planned, now⟩ := performAll_orders quiet
        (fun task => @Stage.silent settings m stage summary.registry.optionSets task) state
      have here : ∀ plan ∈ plans, ∃ named ∈ stage :: stages, ∃ ids,
          named.Plans settings ids m plan ∧ (named ≠ .optionSets → ∀ final,
            (runStages (.full client.recording) settings m (stage :: stages) summary
              state).result = .ok final → ids = final.registry.optionSets) := by
        intro plan member
        refine ⟨stage, List.mem_cons_self, _, planned plan member, fun tail final ran => ?_⟩
        refine (runStages_optionSets ?_ ran).symm
        rw [List.mem_cons, not_or]
        exact ⟨tail.symm, fun member => others _ member rfl⟩
      rcases done : performAll (.full client.recording) state
        (stage.tasks settings summary.registry.optionSets m) with ⟨result, log, middle⟩
      rw [done] at now
      have opening : warningsOf (stage.beginning m :: log) = warningsOf log := by
        cases stage <;> rfl
      simp only [runStages, Stage.run, done] at here ⊢
      cases result with
      | error error => exact ⟨plans, here, ⟨now.payloads, opening.trans now.warnings⟩⟩
      | ok items =>
          obtain ⟨later, planned', rest⟩ :=
            ih first (summary.withStage (.ofItems stage.kind items)) middle
          simp only [Except.map] at here ⊢
          refine ⟨plans ++ later, ?_, now.append rest ?_ rfl⟩
          · intro plan member
            rcases List.mem_append.mp member with early | late
            · exact here plan early
            · obtain ⟨named, among, plans⟩ := planned' plan late
              exact ⟨named, List.mem_cons_of_mem _ among, plans⟩
          · rw [List.cons_append, ← List.cons_append, warningsOf_append, opening]

end

end

end ErdDeploy
