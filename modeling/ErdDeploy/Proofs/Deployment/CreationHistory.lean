import ErdDeploy.Proofs.Deployment.Accounts

/-!
Nothing is created twice.

Three facts hold of the exchanges of a run with any client at all: every creation
comes right after a lookup of the same name that found nothing
(`Model.exchanges_followMisses`), a dry run creates nothing
(`Model.exchanges_of_dryRun`), and option sets come before tables and tables
before relationships (`Model.exchanges_stagesInOrder`).

A remote in memory remembers just these exchanges (`Model.calls_deploy`). It may be
visited by any number of runs, each with a model, settings and failures of its own;
`history` keeps what each of them did. Over a whole history no name is created twice,
nor one that was stored at the beginning (`history_creates_once`).
-/

namespace ErdDeploy

/-! ## Creations come after lookups that miss -/

/-- Every creation comes right after a lookup of the same name that found nothing. -/
def CreatesFollowMisses (exchanges : List Exchange) : Prop :=
  ∀ before payload answer after, exchanges = before ++ .create payload answer :: after →
    ∃ earlier, before = earlier ++ [.find payload.kind payload.name (.ok .absent)]

namespace CreatesFollowMisses

variable {exchanges later : List Exchange}

theorem of_no_creation (none : ∀ exchange ∈ exchanges, exchange.isCreation = false) :
    CreatesFollowMisses exchanges := by
  rintro before payload answer after rfl
  have lookup := none (.create payload answer) (by simp)
  cases lookup

/-- A creation in the second part has its lookup there too, so no lookup is needed across the
seam. -/
theorem append (first : CreatesFollowMisses exchanges) (second : CreatesFollowMisses later) :
    CreatesFollowMisses (exchanges ++ later) := by
  intro before payload answer after split
  rcases List.append_eq_append_iff.mp split with ⟨front, rfl, rfl⟩ | ⟨back, rfl, parts⟩
  · obtain ⟨earlier, rfl⟩ := second front payload answer after rfl
    exact ⟨exchanges ++ earlier, (List.append_assoc _ _ _).symm⟩
  · cases back with
    | nil =>
        obtain ⟨earlier, none⟩ := second [] payload answer after parts.symm
        exact absurd none.symm (by simp)
    | cons exchange back =>
        rw [List.cons_append, List.cons.injEq] at parts
        obtain ⟨rfl, -⟩ := parts
        exact first before payload answer back rfl

theorem pair (payload : Payload) (answer : Except ClientError RemoteId) :
    CreatesFollowMisses
      [.find payload.kind payload.name (.ok .absent), .create payload answer] := by
  intro before other answer' after split
  rcases before with _ | ⟨lookup, _ | ⟨creation, rest⟩⟩
  · cases split
  · cases split
    exact ⟨[], rfl⟩
  · have short := congrArg List.length split
    simp only [List.length_cons, List.length_nil, List.length_append] at short
    omega

end CreatesFollowMisses

section

variable {σ : Type} {client : Client σ} {dryRun : Bool} {state after : σ}
  {result : Except RunError Item} {exchanges : List Exchange}

/-- A task that fits its stage makes no exchange, or looks one object up, or looks it up and
creates it. -/
theorem Task.Step.shape {kind : ObjectKind} {task : Task} (fits : task.Fits kind)
    (step : Task.Step client dryRun state task result exchanges after) :
    exchanges = [] ∨ (∃ name answer, exchanges = [.find kind name answer]) ∨
      dryRun = false ∧ ∃ payload answer, payload.kind = kind ∧
        exchanges = [.find payload.kind payload.name (.ok .absent), .create payload answer] := by
  cases step with
  | settled item log => exact Or.inl rfl
  | @converge target _ _ _ outcome =>
      obtain ⟨sameKind, made⟩ := fits
      rcases outcome.shape with ⟨answer, rfl⟩ | ⟨wet, payload, warnings, answer, plan, rfl⟩
      · refine Or.inr (Or.inl ⟨target.name, answer, ?_⟩)
        rw [Target.lookup, sameKind]
      · obtain ⟨payloadKind, payloadName⟩ := made payload warnings plan
        refine Or.inr (Or.inr ⟨wet, payload, answer, payloadKind, ?_⟩)
        rw [Target.lookup, sameKind, ← payloadKind, ← payloadName]

theorem Task.Step.followMisses {kind : ObjectKind} {task : Task} (fits : task.Fits kind)
    (step : Task.Step client dryRun state task result exchanges after) :
    CreatesFollowMisses exchanges := by
  rcases step.shape fits with rfl | ⟨name, answer, rfl⟩ | ⟨-, payload, answer, -, rfl⟩
  · exact .of_no_creation (by simp)
  · exact .of_no_creation (by simp [Exchange.isCreation])
  · exact .pair payload answer

theorem Task.Step.no_creation {kind : ObjectKind} {task : Task} (fits : task.Fits kind)
    (dry : dryRun = true) (step : Task.Step client dryRun state task result exchanges after) :
    ∀ exchange ∈ exchanges, exchange.isCreation = false := by
  rcases step.shape fits with rfl | ⟨name, answer, rfl⟩ | ⟨wet, -⟩
  · simp
  · simp [Exchange.isCreation]
  · rw [dry] at wet
    cases wet

theorem Task.Step.kind {kind : ObjectKind} {task : Task} (fits : task.Fits kind)
    (step : Task.Step client dryRun state task result exchanges after) :
    ∀ exchange ∈ exchanges, exchange.kind = kind := by
  rcases step.shape fits with rfl | ⟨name, answer, rfl⟩ | ⟨-, payload, answer, same, rfl⟩
  · simp
  · simp [Exchange.kind]
  · simp [Exchange.kind, same]

end

/-! ## The order of the stages -/

/-- The place of a kind of objects in the order of a run. -/
def ObjectKind.rank : ObjectKind → Nat
  | .optionSet => 0
  | .table => 1
  | .relationship => 2

/-- Option sets come first, then tables, then relationships. -/
def StagesInOrder (exchanges : List Exchange) : Prop :=
  exchanges.Pairwise fun earlier later => earlier.kind.rank ≤ later.kind.rank

section

variable {σ : Type} {client : Client σ} {dryRun : Bool} {settings : SchemaSettings} {m : Model}
  {state after : σ} {exchanges : List Exchange}

theorem Stage.sweep_kind {stage : Stage} {ids : OrderedMap String}
    {result : Except RunError (List Item)}
    (sweep : Sweep client dryRun state (stage.tasks settings ids m) result exchanges after) :
    ∀ exchange ∈ exchanges, exchange.kind = stage.kind := by
  refine sweep.lift (P := fun _ made _ => ∀ exchange ∈ made, exchange.kind = stage.kind)
    ⟨fun _ => by simp, ?_⟩ fun task member _ _ _ _ step => step.kind (Stage.fits member)
  intro before now middle later after first second exchange member
  rcases List.mem_append.mp member with here | there
  · exact first exchange here
  · exact second exchange there

theorem stagesInOrder_of_kind {kind : ObjectKind}
    (kinds : ∀ exchange ∈ exchanges, exchange.kind = kind) : StagesInOrder exchanges := by
  induction exchanges with
  | nil => exact .nil
  | cons exchange rest ih =>
      have later : ∀ exchange ∈ rest, exchange.kind = kind :=
        fun other member => kinds other (List.mem_cons_of_mem _ member)
      refine .cons (fun other member => ?_) (ih later)
      have same := (kinds exchange List.mem_cons_self).trans (later other member).symm
      exact Nat.le_of_eq (congrArg ObjectKind.rank same)

/-- Stages that stand in order make exchanges in order. -/
theorem Journey.stagesInOrder {stages : List Stage} {summary : Summary}
    {result : Except RunError Summary}
    (sorted : stages.Pairwise fun earlier later => earlier.kind.rank ≤ later.kind.rank)
    (journey : Journey client dryRun settings m stages summary state result exchanges after) :
    (∀ exchange ∈ exchanges, ∃ stage ∈ stages, exchange.kind = stage.kind) ∧
      StagesInOrder exchanges := by
  induction journey with
  | done summary state => exact ⟨by simp, .nil⟩
  | halt sweep =>
      have kinds := Stage.sweep_kind sweep
      exact ⟨fun exchange member => ⟨_, List.mem_cons_self, kinds exchange member⟩,
        stagesInOrder_of_kind kinds⟩
  | next sweep _ ih =>
      have kinds := Stage.sweep_kind sweep
      obtain ⟨first, rest⟩ := List.pairwise_cons.mp sorted
      obtain ⟨laterKinds, laterSorted⟩ := ih rest
      constructor
      · intro exchange member
        rcases List.mem_append.mp member with here | there
        · exact ⟨_, List.mem_cons_self, kinds exchange here⟩
        · obtain ⟨stage, among, same⟩ := laterKinds exchange there
          exact ⟨stage, List.mem_cons_of_mem _ among, same⟩
      · refine List.pairwise_append.mpr ⟨stagesInOrder_of_kind kinds, laterSorted, ?_⟩
        intro exchange here other there
        obtain ⟨stage, among, same⟩ := laterKinds other there
        rw [kinds exchange here, same]
        exact first stage among

end

/-! ## Runs with any client -/

namespace Model

variable {σ : Type} (m : Model) (client : Client σ) (settings : SchemaSettings) (dryRun : Bool)
  (state : σ)

theorem exchanges_followMisses :
    CreatesFollowMisses (m.exchanges client settings dryRun state) :=
  (m.journey client settings dryRun state).lift (P := fun _ made _ => CreatesFollowMisses made)
    ⟨fun _ => .of_no_creation (by simp), fun first second => first.append second⟩
    fun _ _ _ member _ _ _ _ step => step.followMisses (Stage.fits member)

theorem exchanges_of_dryRun (dry : dryRun = true) :
    ∀ exchange ∈ m.exchanges client settings dryRun state, exchange.isCreation = false := by
  refine (m.journey client settings dryRun state).lift
    (P := fun _ made _ => ∀ exchange ∈ made, exchange.isCreation = false)
    ⟨fun _ => by simp, ?_⟩ fun _ _ _ member _ _ _ _ step =>
      step.no_creation (Stage.fits member) dry
  intro before now middle later after first second exchange member
  rcases List.mem_append.mp member with here | there
  · exact first exchange here
  · exact second exchange there

theorem exchanges_stagesInOrder :
    StagesInOrder (m.exchanges client settings dryRun state) :=
  ((m.journey client settings dryRun state).stagesInOrder (by decide)).2

end Model

/-! ## What a remote in memory remembers -/

open MemoryRemote

/-- The call that a remote in memory remembers of an exchange. -/
def Exchange.call : Exchange → Call
  | .find kind name _ => .find kind name
  | .create payload (.ok _) => creation payload
  | .create payload (.error _) => .create payload.kind payload.name

section

variable {remote after : MemoryRemote} {log : List LogEntry}
  {answer : Except ClientError RemoteId}

theorem MemoryRemote.calls_of_find {kind : ObjectKind} {name : String}
    (called : client.find kind name remote = ⟨answer, log, after⟩) :
    after.calls = remote.calls ++ [Call.find kind name] := by
  simp only [client, find] at called
  split at called
  · cases called
    rfl
  · cases called
    rfl

theorem MemoryRemote.calls_of_create {payload : Payload}
    (called : client.create payload remote = ⟨answer, log, after⟩) :
    after.calls = remote.calls ++ [(Exchange.create payload answer).call] := by
  simp only [client, create] at called
  split at called
  · cases called
    rfl
  · split at called
    · cases called
      rfl
    · cases called
      cases payload <;> rfl

end

/-- A remote in memory remembers the exchanges of a run in their order. -/
theorem Model.calls_deploy (m : Model) (settings : SchemaSettings) (dryRun : Bool)
    (remote : MemoryRemote) : (m.deploy (some client) settings dryRun remote).state.calls =
      remote.calls ++ (m.exchanges client settings dryRun remote).map Exchange.call := by
  refine (m.journey client settings dryRun remote).lift
    (P := fun before made after => after.calls = before.calls ++ made.map Exchange.call)
    ⟨fun remote => (List.append_nil _).symm, fun first second => ?_⟩
    fun _ _ _ _ _ _ _ _ step => ?_
  · rw [second, first, List.map_append, List.append_assoc]
  · cases step with
    | settled item log => exact (List.append_nil _).symm
    | converge outcome =>
        cases outcome with
        | lookupFailed called => exact calls_of_find called
        | found _ called => exact calls_of_find called
        | unplanned called _ => exact calls_of_find called
        | skipped called _ _ => exact calls_of_find called
        | refused called _ _ made =>
            rw [calls_of_create made, calls_of_find called, List.append_assoc]
            rfl
        | created called _ _ made =>
            rw [calls_of_create made, calls_of_find called, List.append_assoc]
            rfl

/-- A dry run leaves a remote in memory as it was, whatever is stored there. -/
theorem Model.alike_of_dryRun (m : Model) (settings : SchemaSettings) (remote : MemoryRemote) :
    remote.Alike (m.deploy (some client) settings true remote).state := by
  refine (m.journey client settings true remote).lift
    (P := fun before _ after => before.Alike after)
    ⟨fun remote => ⟨fun _ => rfl, rfl, rfl⟩, Alike.trans⟩ fun _ _ _ _ _ _ _ _ step => ?_
  cases step with
  | settled item log => exact ⟨fun _ => rfl, rfl, rfl⟩
  | converge outcome =>
      cases outcome with
      | lookupFailed called => exact alike_of_find called
      | found _ called => exact alike_of_find called
      | unplanned called _ => exact alike_of_find called
      | skipped called _ _ => exact alike_of_find called
      | refused _ _ wet _ => cases wet
      | created _ _ wet _ => cases wet

/-! ## Histories -/

/-- A run that is to be carried out on a remote in memory. -/
structure RunOrder where
  model : Model
  settings : SchemaSettings
  failures : List (CallName × RemoteFailure)
  dryRun : Bool

/-- What a run did: the remote before, the exchanges, and the remote after. -/
structure RunRecord where
  order : RunOrder
  before : MemoryRemote
  exchanges : List Exchange
  after : MemoryRemote

/-- Carry out a run. -/
def RunOrder.carryOut (order : RunOrder) (remote : MemoryRemote) : RunRecord where
  order := order
  before := remote
  exchanges := order.model.exchanges client order.settings order.dryRun
    (remote.withFailures order.failures)
  after := (order.model.deploy (some client) order.settings order.dryRun
    (remote.withFailures order.failures)).state

/-- Carry out runs, each on the remote that the run before has left. -/
def history (remote : MemoryRemote) : List RunOrder → List RunRecord
  | [] => []
  | order :: orders => order.carryOut remote :: history (order.carryOut remote).after orders

/-- All exchanges of a history, in order. -/
def historyExchanges (records : List RunRecord) : List Exchange :=
  records.flatMap RunRecord.exchanges

theorem historyExchanges_cons (remote : MemoryRemote) (order : RunOrder)
    (orders : List RunOrder) :
    historyExchanges (history remote (order :: orders)) =
      (order.carryOut remote).exchanges ++
        historyExchanges (history (order.carryOut remote).after orders) := by
  rw [history, historyExchanges, List.flatMap_cons, historyExchanges]

/-- What a record says about its own run: the remote remembers its exchanges, names come new by
its creations only, a dry run creates nothing and leaves all stores as they were, any other run
leaves all that its model declares unless a call is set up to fail, and the stages keep their
order. -/
structure RunRecord.Sound (record : RunRecord) : Prop where
  calls : record.after.calls = record.before.calls ++ record.exchanges.map Exchange.call
  names : ∀ kind, (record.after.store kind).names =
    (record.before.store kind).names ++ createdNames kind record.exchanges
  dry : record.order.dryRun = true →
    (∀ exchange ∈ record.exchanges, exchange.isCreation = false) ∧
      (∀ kind, record.after.store kind = record.before.store kind) ∧
      record.after.counter = record.before.counter
  wet : record.order.dryRun = false → record.order.failures = [] → ∀ kind name,
    record.order.model.Declares record.order.settings kind name →
      name ∈ (record.after.store kind).names
  stages : StagesInOrder record.exchanges

theorem RunOrder.growth (order : RunOrder) {remote : MemoryRemote} (texts : remote.HoldsTexts) :
    (remote.withFailures order.failures).Growth (order.carryOut remote).exchanges
      (order.carryOut remote).after := by
  obtain ⟨summary, -, visit⟩ :=
    order.model.visit order.settings order.dryRun (texts.withFailures order.failures)
  exact visit.growth

theorem RunOrder.sound (order : RunOrder) {remote : MemoryRemote} (texts : remote.HoldsTexts) :
    (order.carryOut remote).Sound where
  calls := order.model.calls_deploy order.settings order.dryRun
    (remote.withFailures order.failures)
  names kind := by
    rw [(order.growth texts).names, store_withFailures]
    rfl
  dry dry := by
    refine ⟨Model.exchanges_of_dryRun _ _ _ _ _ dry, ?_⟩
    have alike := order.model.alike_of_dryRun order.settings (remote.withFailures order.failures)
    rw [← dry] at alike
    exact ⟨fun kind => (alike.store kind).trans (store_withFailures _ _ _), alike.counter⟩
  wet wet fine kind name declared := by
    obtain ⟨summary, -, visit⟩ :=
      order.model.visit order.settings false (texts.withFailures order.failures)
    have stored := visit.stored fine declared
    rw [← wet] at stored
    exact stored
  stages := Model.exchanges_stagesInOrder _ _ _ _ _

/-- A history that starts on texts ends on a remote with the names of the start and, behind
them, those of its creations. -/
theorem history_names {remote : MemoryRemote} (texts : remote.HoldsTexts)
    (orders : List RunOrder) :
    ∃ last : MemoryRemote, ∀ kind, (last.store kind).names =
      (remote.store kind).names ++
        createdNames kind (historyExchanges (history remote orders)) := by
  induction orders generalizing remote with
  | nil => exact ⟨remote, fun kind => (List.append_nil _).symm⟩
  | cons order orders ih =>
      have growth := order.growth texts
      obtain ⟨last, names⟩ := ih (growth.texts (texts.withFailures _))
      refine ⟨last, fun kind => ?_⟩
      rw [names, growth.names, store_withFailures, historyExchanges_cons, createdNames_append,
        List.append_assoc]

theorem history_sound {remote : MemoryRemote} (texts : remote.HoldsTexts)
    (orders : List RunOrder) : ∀ record ∈ history remote orders, record.Sound := by
  induction orders generalizing remote with
  | nil => simp [history]
  | cons order orders ih =>
      intro record member
      rcases List.mem_cons.mp member with rfl | later
      · exact order.sound texts
      · exact ih ((order.growth texts).texts (texts.withFailures _)) record later

theorem history_followMisses (remote : MemoryRemote) (orders : List RunOrder) :
    CreatesFollowMisses (historyExchanges (history remote orders)) := by
  induction orders generalizing remote with
  | nil => exact .of_no_creation (by simp [history, historyExchanges])
  | cons order orders ih =>
      rw [historyExchanges_cons]
      exact (Model.exchanges_followMisses _ _ _ _ _).append (ih _)

/-- **No duplicate creation.** Over every history on a remote that holds texts, each creation
comes right after a lookup that missed, no name is created that was created or stored before, and
every run is sound: it keeps the order of its stages, stays away from the remote if it is dry, and
otherwise leaves what its model declares unless a call is set up to fail. -/
theorem history_creates_once {remote : MemoryRemote} (texts : remote.HoldsTexts)
    (orders : List RunOrder) :
    CreatesFollowMisses (historyExchanges (history remote orders)) ∧
      (∀ kind, ((remote.store kind).names ++
        createdNames kind (historyExchanges (history remote orders))).Nodup) ∧
      ∀ record ∈ history remote orders, record.Sound := by
  refine ⟨history_followMisses remote orders, fun kind => ?_, history_sound texts orders⟩
  obtain ⟨last, names⟩ := history_names texts orders
  rw [← names kind]
  exact (last.store kind).distinct

/-- A remote that has a table and nothing else. -/
def tableOnly : MemoryRemote :=
  empty.seed .table "new_t" (.text "t")

/-- Three runs of one model: one that fails to create an option set, one that would create what is
missing, and one that creates it. -/
def threeRuns (m : Model) : List RunOrder :=
  [⟨m, {}, choiceRefused, false⟩, ⟨m, {}, [], true⟩, ⟨m, {}, [], false⟩]

theorem history_creates_once_three_runs :
    tableOnly.HoldsTexts ∧
      ∃ m, Model.ofText {} false oneChoice = .ok m ∧
        CreatesFollowMisses (historyExchanges (history tableOnly (threeRuns m))) ∧
        (∀ kind, ((tableOnly.store kind).names ++
          createdNames kind (historyExchanges (history tableOnly (threeRuns m)))).Nodup) ∧
        ∀ record ∈ history tableOnly (threeRuns m), record.Sound := by
  have texts : tableOnly.HoldsTexts := holdsTexts_empty.seed .table "new_t" "t"
  obtain ⟨m, read⟩ := exists_ofText_oneChoice
  exact ⟨texts, m, read, history_creates_once texts _⟩

end ErdDeploy
