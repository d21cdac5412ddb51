import ErdDeploy.Proofs.Deployment.OfflineRun
import ErdDeploy.Proofs.Deployment.RepeatedNames
import ErdDeploy.Proofs.Deployment.Reports
import ErdDeploy.Proofs.Schema.TakenNames

/-!
Repeated names, as a source is warned of them and as a run meets them.

The names of relationships are compared twice. Where references are resolved, the line of the
first one is kept for each name, and the others are warned about. Where relationships are
deployed, the names that came before are kept, and a relationship that repeats one fails at once,
without a call (`Relationship.IsGuarded`). `Model.guarded_iff_warned` says that both come to the
same at every place of the model, in each run that has a summary.

To tell what a run did for one relationship, its items and its exchanges are shared out among the
tasks (`Turn`). Any other relationship takes a call, or none can be made (`Relationship.IsTried`),
so the two kinds of turns do not meet, whatever the remote answers.
-/

namespace ErdDeploy

section

variable {σ : Type}

/-! ## Turns -/

/-- What a run did for one object: the item it came to, and the exchanges on the way. -/
structure Turn where
  item : Item
  exchanges : List Exchange

/-- A turn that a task can take. Without a client nothing is exchanged. -/
inductive Task.Takes (dryRun : Bool) : Option (Client σ) → Task → Turn → Prop
  | step {client : Client σ} {task : Task} {before after : σ} {item : Item}
      {exchanges : List Exchange} :
      Task.Step client dryRun before task (.ok item) exchanges after →
      Takes dryRun (some client) task ⟨item, exchanges⟩
  | draft (task : Task) : Takes dryRun none task ⟨task.draft, []⟩

/-- A stage that comes to its end is made of one turn for each task. -/
theorem Sweep.exists_turns {client : Client σ} {dryRun : Bool} {state after : σ}
    {tasks : List Task} {items : List Item} {exchanges : List Exchange}
    (sweep : Sweep client dryRun state tasks (.ok items) exchanges after) :
    ∃ turns, List.Forall₂ (Task.Takes dryRun (some client)) tasks turns ∧
      items = turns.map Turn.item ∧ exchanges = turns.flatMap Turn.exchanges := by
  generalize done : Except.ok items = result at sweep
  induction sweep generalizing items with
  | done state =>
      cases done
      exact ⟨[], .nil, rfl, rfl⟩
  | halt => cases done
  | @next state task tasks item exchanges middle result later after first _ ih =>
      cases result with
      | error error => cases done
      | ok rest =>
          cases done
          obtain ⟨turns, took, rfl, rfl⟩ := ih rfl
          exact ⟨⟨item, exchanges⟩ :: turns, .cons (.step first) took, rfl, rfl⟩

/-- A run that comes to a summary comes to the end of its stages. -/
theorem Journey.stage_of_ok {client : Client σ} {dryRun : Bool} {settings : SchemaSettings}
    {m : Model} {stage : Stage} {stages : List Stage} {summary summary' : Summary} {state after : σ}
    {exchanges : List Exchange} (journey : Journey client dryRun settings m (stage :: stages)
      summary state (.ok summary') exchanges after) :
    ∃ items now middle later,
      Sweep client dryRun state (stage.tasks settings summary.registry.optionSets m) (.ok items) now
        middle ∧
      Journey client dryRun settings m stages (summary.withStage (.ofItems stage.kind items)) middle
        (.ok summary') later after ∧
      exchanges = now ++ later := by
  cases journey with
  | next sweep rest => exact ⟨_, _, _, _, sweep, rest, rfl⟩

namespace Model

/-- The exchanges of a run that may have no client. -/
def exchangesWith (m : Model) (client : Option (Client σ)) (settings : SchemaSettings)
    (dryRun : Bool) (state : σ) : List Exchange :=
  match client with
  | some client => m.exchanges client settings dryRun state
  | none => []

/-- The turns of the relationships between tables in a run, one for each in the order of the
model: their items begin the report on relationships, and their exchanges are those of the run from
some place on. -/
structure RelationshipTurns (m : Model) (client : Option (Client σ)) (settings : SchemaSettings)
    (dryRun : Bool) (state : σ) (summary : Summary) (turns : List Turn) : Prop where
  took : List.Forall₂ (Task.Takes dryRun client) (relationshipTasks settings [] m.relationships)
    turns
  items : ∃ users, summary.relationships.items = turns.map Turn.item ++ users
  exchanges : ∃ earlier later, m.exchangesWith client settings dryRun state =
    earlier ++ (turns.flatMap Turn.exchanges ++ later)

variable {m : Model} {client : Option (Client σ)} {settings : SchemaSettings} {dryRun : Bool}
  {state : σ} {summary : Summary} {turns : List Turn}

theorem exists_turns (ran : (m.deploy client settings dryRun state).result = .ok summary) :
    ∃ turns, m.RelationshipTurns client settings dryRun state summary turns := by
  cases client with
  | some client =>
      have journey := m.journey client settings dryRun state
      rw [ran] at journey
      obtain ⟨_, first, _, _, -, rest, split₁⟩ := journey.stage_of_ok
      obtain ⟨_, second, _, _, -, rest, split₂⟩ := rest.stage_of_ok
      obtain ⟨_, third, _, _, sweep, rest, split₃⟩ := rest.stage_of_ok
      obtain ⟨users, fourth, _, _, -, rest, split₄⟩ := rest.stage_of_ok
      obtain ⟨turns, took, rfl, rfl⟩ := sweep.exists_turns
      generalize (m.deploy (some client) settings dryRun state).state = after at rest
      cases rest with
      | done =>
          refine ⟨turns, took, ⟨users, rfl⟩, first ++ second, fourth ++ [], ?_⟩
          rw [exchangesWith, split₁, split₂, split₃, split₄, List.append_assoc]
  | none =>
      cases dryRun with
      | false => cases ran
      | true =>
          have drafted := (m.deploy_without_client settings state).symm.trans ran
          injection drafted with drafted
          subst drafted
          refine ⟨(relationshipTasks settings [] m.relationships).map fun task =>
            ⟨task.draft, []⟩, ?_, ?_, [], [], ?_⟩
          · rw [List.forall₂_map_right_iff, List.forall₂_same]
            exact fun task _ => .draft task
          · refine ⟨(relationshipTasks settings [] m.userRelationships).map Task.draft, ?_⟩
            rw [drafted, Summary.items_relationships_ofItems, List.map_map]
            rfl
          · simp [exchangesWith]

/-- A run with a client that answers has a summary, and so has a dry run without one. -/
theorem exists_summary (m : Model) (settings : SchemaSettings) (state : σ)
    (offered : client = none → dryRun = true) (answers : ∀ c ∈ client, c.Answers) :
    ∃ summary, (m.deploy client settings dryRun state).result = .ok summary := by
  cases client with
  | none =>
      cases offered rfl
      exact ⟨_, m.deploy_without_client settings state⟩
  | some client =>
      obtain ⟨_, _, _, _, result, -⟩ := m.reported settings dryRun state (answers client rfl)
      exact ⟨_, result⟩

end Model

/-! ## Relationships -/

namespace Relationship

/-- A turn fails a relationship because of its name, without a call. -/
def IsGuarded (r : Relationship) (turn : Turn) : Prop :=
  turn = ⟨r.repeatedItem, []⟩

/-- A turn begins with looking the relationship up, or there is no client to do so. -/
inductive IsTried (r : Relationship) : Option (Client σ) → Turn → Prop
  | asked {client : Client σ} {item : Item} {answer : Except ClientError RemoteId}
      {later : List Exchange} :
      IsTried r (some client) ⟨item, .find .relationship r.schemaName answer :: later⟩
  | unasked : IsTried r none ⟨.skipped r.schemaName "would create", []⟩

variable {r : Relationship} {client : Option (Client σ)} {turn : Turn} {dryRun : Bool}
  {settings : SchemaSettings}

theorem IsTried.not_isGuarded (tried : r.IsTried client turn) : ¬ r.IsGuarded turn := by
  intro guarded
  cases tried with
  | asked => cases guarded
  | unasked => cases guarded

theorem isGuarded_of_takes (took : (repeatedTask r).Takes dryRun client turn) :
    r.IsGuarded turn := by
  cases took with
  | step step =>
      cases step with
      | settled => rfl
  | draft => rfl

theorem isTried_of_takes
    (took : (Task.converge (.ofRelationship settings r)).Takes dryRun client turn) :
    r.IsTried client turn := by
  cases took with
  | step step =>
      cases step with
      | converge outcome =>
          rcases outcome.shape with ⟨answer, rfl⟩ | ⟨-, _, _, answer, -, rfl⟩
          · exact .asked
          · exact .asked
  | draft => exact .unasked

/-- A stage of relationships guards exactly those whose name an earlier one has, and tries all
others. -/
theorem exists_turn {before later : List Relationship} {turns : List Turn}
    (took : List.Forall₂ (Task.Takes dryRun client)
      (relationshipTasks settings [] (before ++ r :: later)) turns) :
    ∃ turn, turns[before.length]? = some turn ∧
      (r.IsGuarded turn ↔ r.schemaName ∈ before.map schemaName) ∧
      (r.IsGuarded turn ∨ r.IsTried client turn) := by
  obtain ⟨front, behind, length, split⟩ := @relationshipTasks_at settings before later r
  rw [split] at took
  obtain ⟨turn, found, takes⟩ := exists_at_of_forall₂ took
  rw [length] at found
  by_cases repeated : r.schemaName ∈ before.map schemaName
  · rw [if_pos repeated] at takes
    have guarded := isGuarded_of_takes takes
    exact ⟨turn, found, iff_of_true guarded repeated, Or.inl guarded⟩
  · rw [if_neg repeated] at takes
    have tried := isTried_of_takes takes
    exact ⟨turn, found, iff_of_false tried.not_isGuarded repeated, Or.inr tried⟩

end Relationship

/-! ## Sources and runs -/

namespace Model

variable {rules : NamingRules} {strict : Bool} {text : String} {m : Model}

/-- The relationships that a run guards are those that the source is warned about. -/
structure GuardsAsWarned (rules : NamingRules) (m : Model) (client : Option (Client σ))
    (turns : List Turn) : Prop where
  length : turns.length = m.effective.length
  each : ∀ past r behind, m.effective = past ++ r :: behind →
    m.relationships[past.length]? = some (Relationship.ofReference rules m.tables r) ∧
    ∃ turn, turns[past.length]? = some turn ∧
      ((Relationship.ofReference rules m.tables r).IsGuarded turn ↔
        ∃ d ∈ m.diagnostics, d.TellsNameTaken ∧ d.line = r.line) ∧
      ((Relationship.ofReference rules m.tables r).IsGuarded turn ∨
        (Relationship.ofReference rules m.tables r).IsTried client turn)
  warned : ∀ d ∈ m.diagnostics, d.TellsNameTaken → ∃ r ∈ m.effective, ∃ first,
    Relationship.firstOf rules (Relationship.nameOf rules r) m.effective = some first ∧
      d = Relationship.nameTaken (Relationship.nameOf rules r) first.line r

/-- An effective reference is warned about if an earlier one has its name. -/
theorem exists_warning_iff (read : ofText rules strict text = .ok m)
    {past behind : List Reference} {r : Reference} (split : m.effective = past ++ r :: behind) :
    (∃ d ∈ m.diagnostics, d.TellsNameTaken ∧ d.line = r.line) ↔
      Relationship.nameOf rules r ∈ past.map (Relationship.nameOf rules) := by
  rw [← Relationship.exists_firstOf_iff]
  constructor
  · rintro ⟨d, member, tells, onLine⟩
    obtain ⟨first, taken, -⟩ := (nameTaken_iff read split).mp ⟨⟨member, tells⟩, onLine⟩
    exact ⟨first, taken⟩
  · rintro ⟨first, taken⟩
    obtain ⟨⟨member, tells⟩, onLine⟩ := (nameTaken_iff read split).mpr ⟨first, taken, rfl⟩
    exact ⟨_, member, tells, onLine⟩

theorem relationships_eq (read : ofText rules strict text = .ok m) :
    m.relationships = m.effective.map (Relationship.ofReference rules m.tables) := by
  obtain ⟨declared, -, origin⟩ := origin_of_ofText read
  exact origin.relationships

theorem guardsAsWarned {client : Option (Client σ)} {settings : SchemaSettings} {dryRun : Bool}
    {state : σ} {summary : Summary} {turns : List Turn} (read : ofText rules strict text = .ok m)
    (turned : m.RelationshipTurns client settings dryRun state summary turns) :
    m.GuardsAsWarned rules client turns where
  length := by
    rw [← turned.took.length_eq, length_relationshipTasks, relationships_eq read, List.length_map]
  each := by
    intro past r behind split
    have relationships : m.relationships =
        past.map (Relationship.ofReference rules m.tables) ++
          Relationship.ofReference rules m.tables r ::
            behind.map (Relationship.ofReference rules m.tables) := by
      rw [relationships_eq read, split, List.map_append, List.map_cons]
    have took := turned.took
    rw [relationships] at took
    obtain ⟨turn, found, guarded, tried⟩ := Relationship.exists_turn took
    rw [List.length_map] at found
    refine ⟨?_, turn, found, ?_, tried⟩
    · rw [relationships_eq read, split]
      simp
    · rw [guarded, exists_warning_iff read split, List.map_map]
      rfl
  warned := fun d member tells => exists_of_tellsNameTaken read member tells

/-- **Repeated names, warned of and guarded.** In a run of a source that is read, with any client or
with none, a relationship between tables fails for its name, without a call, exactly if the
source is warned on its line that the name is taken, and the warning names the line of the first
effective reference of that name. Every run has a summary that tells so, if its client
answers or if it is dry and has none. -/
theorem guarded_iff_warned (read : ofText rules strict text = .ok m)
    (client : Option (Client σ)) (settings : SchemaSettings) (dryRun : Bool) (state : σ) :
    ((client = none → dryRun = true) → (∀ c ∈ client, c.Answers) →
      ∃ summary, (m.deploy client settings dryRun state).result = .ok summary) ∧
    ∀ summary, (m.deploy client settings dryRun state).result = .ok summary →
      ∃ turns, m.RelationshipTurns client settings dryRun state summary turns ∧
        m.GuardsAsWarned rules client turns := by
  refine ⟨fun offered answers => m.exists_summary settings state offered answers, ?_⟩
  intro summary ran
  obtain ⟨turns, turned⟩ := exists_turns ran
  exact ⟨turns, turned, guardsAsWarned read turned⟩

/-- References between other tables that come to one name, and one that does not. -/
def meetingNames : String :=
  "Table A_B \x7b\x7d\nTable C \x7b\x7d\nTable A \x7b\x7d\nTable B_C \x7b\x7d\n" ++
    "Ref: A_B.id < C.x\nRef: A.id < C.x\nRef: A.id < B_C.y\nRef: A_B.id < C.z"

theorem guarded_iff_warned_of_meetingNames :
    ∃ m, ofText {} true meetingNames = .ok m ∧
      m.diagnostics.map Diagnostic.line = [7, 8] ∧
      m.effective.map Reference.line = [5, 6, 7, 8] ∧
      ∃ summary, (m.deploy (some (Client.vacant (σ := Unit))) {} false ()).result = .ok summary ∧
        ∃ turns, m.RelationshipTurns (some Client.vacant) {} false () summary turns ∧
          m.GuardsAsWarned {} (some (Client.vacant (σ := Unit))) turns := by
  have computed : (ofText {} true meetingNames).toOption.map (fun m =>
      (m.diagnostics.map Diagnostic.line, m.effective.map Reference.line)) =
        some ([7, 8], [5, 6, 7, 8]) := by
    decide +kernel
  obtain ⟨m, read, both⟩ := exists_of_toOption_map computed
  obtain ⟨warned, effective⟩ := Prod.mk.inj both
  obtain ⟨reports, guards⟩ := guarded_iff_warned read (some (Client.vacant (σ := Unit))) {} false ()
  have answers : ∀ c ∈ some (Client.vacant (σ := Unit)), c.Answers := by
    intro c member
    cases member
    exact Client.answers_vacant
  obtain ⟨summary, ran⟩ := reports nofun answers
  obtain ⟨turns, turned, guarded⟩ := guards summary ran
  exact ⟨m, read, warned, effective, summary, ran, turns, turned, guarded⟩

end Model

end

end ErdDeploy
