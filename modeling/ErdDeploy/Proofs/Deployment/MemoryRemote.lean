import ErdDeploy.Deployment.MemoryRemote
import ErdDeploy.Proofs.Data.OrderedMap

/-!
Calls to a remote in memory.

A remote is asked about as long as all identifiers that are stored are texts
(`MemoryRemote.HoldsTexts`). A lookup then fails as it is set up to, or says what is
stored, and leaves a remote that is `Alike`; a creation under a name that is not
stored fails as it is set up to, or leaves a remote that has `Gained` the object.
-/

namespace ErdDeploy

namespace MemoryRemote

/-- Every identifier that is stored is a text. -/
def HoldsTexts (remote : MemoryRemote) : Prop :=
  ∀ kind, ∀ value ∈ (remote.store kind).values, ∃ id, value = .text id

/-- The same remote with another table of failures. -/
def withFailures (remote : MemoryRemote) (failures : List (CallName × RemoteFailure)) :
    MemoryRemote :=
  { remote with failures := failures }

@[simp] theorem store_withFailures (remote : MemoryRemote)
    (failures : List (CallName × RemoteFailure)) (kind : ObjectKind) :
    (remote.withFailures failures).store kind = remote.store kind := by
  cases kind <;> rfl

/-- The creation of an option set is refused. -/
def choiceRefused : List (CallName × RemoteFailure) :=
  [(.create "new_s", ⟨"boom", none, .null⟩)]

/-- The creation of a table is refused. -/
def tableRefused : List (CallName × RemoteFailure) :=
  [(.create "new_t", ⟨"boom", none, .null⟩)]

/-- Failures have no part in what is stored. -/
theorem HoldsTexts.withFailures {remote : MemoryRemote} (texts : remote.HoldsTexts)
    (failures : List (CallName × RemoteFailure)) :
    (remote.withFailures failures).HoldsTexts := by
  intro kind
  rw [store_withFailures]
  exact texts kind

/-- The other remote differs in nothing but the calls that were made. -/
structure Alike (remote after : MemoryRemote) : Prop where
  store : ∀ kind, after.store kind = remote.store kind
  failures : after.failures = remote.failures
  counter : after.counter = remote.counter

/-- The other remote has one object more, and differs in nothing else but the calls. -/
structure Gained (kind : ObjectKind) (name : String) (remote after : MemoryRemote) : Prop where
  absent : (remote.store kind).get? name = none
  store : after.store kind = (remote.store kind).insert name (.text remote.nextIdentifier)
  others : ∀ other, other ≠ kind → after.store other = remote.store other
  failures : after.failures = remote.failures
  counter : after.counter = remote.counter + 1

theorem alike_record (remote : MemoryRemote) (call : Call) :
    remote.Alike (remote.record call) :=
  ⟨fun kind => by cases kind <;> rfl, rfl, rfl⟩

theorem Alike.trans {remote middle after : MemoryRemote} (first : remote.Alike middle)
    (second : middle.Alike after) : remote.Alike after where
  store kind := (second.store kind).trans (first.store kind)
  failures := second.failures.trans first.failures
  counter := second.counter.trans first.counter

/-- What is gained after calls that changed nothing is gained by all calls together. -/
theorem Alike.gained {kind : ObjectKind} {name : String} {remote middle after : MemoryRemote}
    (first : remote.Alike middle) (second : Gained kind name middle after) :
    Gained kind name remote after where
  absent := first.store kind ▸ second.absent
  store := by
    have identifier : middle.nextIdentifier = remote.nextIdentifier := by
      rw [nextIdentifier, nextIdentifier, first.counter]
    rw [second.store, first.store, identifier]
  others other differ := (second.others other differ).trans (first.store other)
  failures := second.failures.trans first.failures
  counter := by rw [second.counter, first.counter]

/-- The names of a remote that has gained an object are those from before and the one gained. -/
theorem Gained.mem_names_iff {kind other : ObjectKind} {name found : String}
    {remote after : MemoryRemote} (gained : Gained kind name remote after) :
    found ∈ (after.store other).names ↔
      found ∈ (remote.store other).names ∨ kind = other ∧ name = found := by
  by_cases same : kind = other
  · subst same
    rw [gained.store, OrderedMap.mem_names_insert, or_comm, eq_comm]
    simp
  · rw [gained.others other (Ne.symm same)]
    simp [same]

theorem HoldsTexts.of_get? {remote : MemoryRemote} (texts : remote.HoldsTexts)
    {kind : ObjectKind} {name : String} {value : Value}
    (found : (remote.store kind).get? name = some value) : ∃ id, value = .text id :=
  texts kind value (OrderedMap.mem_values_iff.mpr ⟨name, found⟩)

theorem store_seed_self (remote : MemoryRemote) (kind : ObjectKind) (name : String)
    (id : Value) : (remote.seed kind name id).store kind = (remote.store kind).insert name id := by
  cases kind <;> rfl

theorem store_seed_of_ne (remote : MemoryRemote) {kind other : ObjectKind} (name : String)
    (id : Value) (differ : other ≠ kind) :
    (remote.seed kind name id).store other = remote.store other := by
  cases kind <;> cases other <;> simp_all [seed, withStore, store]

theorem holdsTexts_empty : empty.HoldsTexts := by
  intro kind value member
  cases kind <;> cases member

/-- A store stays one of texts when a text is written. -/
theorem HoldsTexts.of_insert {remote after : MemoryRemote} {kind : ObjectKind}
    {name id : String} (texts : remote.HoldsTexts)
    (store : after.store kind = (remote.store kind).insert name (.text id))
    (others : ∀ other, other ≠ kind → after.store other = remote.store other) :
    after.HoldsTexts := by
  intro other value member
  by_cases same : other = kind
  · subst same
    obtain ⟨name', found⟩ := OrderedMap.mem_values_iff.mp member
    rw [store, OrderedMap.get?_insert] at found
    split at found
    · exact ⟨id, (Option.some.inj found).symm⟩
    · exact texts.of_get? found
  · rw [others other same] at member
    exact texts other value member

theorem HoldsTexts.seed {remote : MemoryRemote} (texts : remote.HoldsTexts) (kind : ObjectKind)
    (name id : String) : (remote.seed kind name (.text id)).HoldsTexts :=
  texts.of_insert (store_seed_self remote kind name _) fun _ => store_seed_of_ne remote name _

/-- Counting a creation and storing what it gives out is to gain the object. -/
theorem gained_seed {remote : MemoryRemote} {kind : ObjectKind} {name : String} {call : Call}
    (absent : (remote.store kind).get? name = none) :
    Gained kind name remote
      ({ remote.record call with counter := remote.counter + 1 }.seed kind name
        (.text remote.nextIdentifier)) where
  absent := absent
  store := by
    rw [store_seed_self]
    cases kind <;> rfl
  others other differ := by
    rw [store_seed_of_ne _ _ _ differ]
    cases other <;> rfl
  failures := by cases kind <;> rfl
  counter := by cases kind <;> rfl

/-! ## The two calls -/

section

variable {remote after : MemoryRemote} {log : List LogEntry}

/-- A lookup changes nothing. -/
theorem alike_of_find {kind : ObjectKind} {name : String} {answer : Except ClientError RemoteId}
    (called : client.find kind name remote = ⟨answer, log, after⟩) : remote.Alike after := by
  simp only [client, find] at called
  split at called
  · cases called
    exact alike_record remote _
  · cases called
    exact alike_record remote _

/-- A lookup fails as it is set up to, or gives what is stored. -/
theorem find_cases {kind : ObjectKind} {name : String} {answer : Except ClientError RemoteId}
    (texts : remote.HoldsTexts) (called : client.find kind name remote = ⟨answer, log, after⟩) :
    (∃ failure, remote.failures.lookup (.find name) = some failure ∧
        answer = .error (.failure failure)) ∨
      remote.failures.lookup (.find name) = none ∧
        ((∃ id, (remote.store kind).get? name = some (.text id) ∧ answer = .ok (.text id)) ∨
          (remote.store kind).get? name = none ∧ answer = .ok .absent) := by
  simp only [client, find] at called
  cases failing : remote.failures.lookup (.find name) with
  | some failure =>
      rw [failing] at called
      cases called
      exact Or.inl ⟨failure, rfl, rfl⟩
  | none =>
      rw [failing] at called
      cases called
      refine Or.inr ⟨rfl, ?_⟩
      cases stored : (remote.store kind).get? name with
      | none => exact Or.inr ⟨rfl, by simp [identifier, stored, RemoteId.ofValue]⟩
      | some value =>
          obtain ⟨id, rfl⟩ := texts.of_get? stored
          exact Or.inl ⟨id, rfl, by simp [identifier, stored, RemoteId.ofValue]⟩

/-- A creation under a name that is not stored fails as it is set up to, or adds the object. -/
theorem create_cases {payload : Payload} {answer : Except ClientError RemoteId}
    (absent : (remote.store payload.kind).get? payload.name = none)
    (called : client.create payload remote = ⟨answer, log, after⟩) :
    (∃ failure, remote.failures.lookup (.create payload.name) = some failure ∧
        answer = .error (.failure failure) ∧ remote.Alike after) ∨
      remote.failures.lookup (.create payload.name) = none ∧
        answer = .ok (.text remote.nextIdentifier) ∧
        Gained payload.kind payload.name remote after := by
  simp only [client, create, absent] at called
  cases failing : remote.failures.lookup (.create payload.name) with
  | some failure =>
      rw [failing] at called
      cases called
      exact Or.inl ⟨failure, rfl, rfl, alike_record remote _⟩
  | none =>
      rw [failing] at called
      cases called
      exact Or.inr ⟨rfl, rfl, gained_seed absent⟩

end

end MemoryRemote

end ErdDeploy
