import ErdDeploy.Data.OrderedMap
import ErdDeploy.Deployment.Remote

/-!
A remote in memory: a store of identifiers for each kind of objects, and a table of calls that
are to fail.

A failing call changes nothing but the list of calls made. A creation gives out a new
identifier, except that a name which is stored already keeps the one it has.
-/

namespace ErdDeploy

/-- A column of a created table, as far as it is remembered. -/
structure ColumnTrace where
  kind : String
  schemaName : String
  optionSetId : Option String
  deriving DecidableEq, Repr

/-- A call that was made. -/
inductive Call
  | find (kind : ObjectKind) (name : String)
  | create (kind : ObjectKind) (name : String)
  /-- A table that was created, with its columns. -/
  | createTable (name : String) (columns : List ColumnTrace)
  deriving DecidableEq, Repr

/-- The two calls by name, as the table of failures tells them apart. -/
inductive CallName
  | find (name : String)
  | create (name : String)
  deriving DecidableEq, Repr

/-- A remote in memory. -/
structure MemoryRemote where
  optionSets : OrderedMap Value
  tables : OrderedMap Value
  relationships : OrderedMap Value
  failures : List (CallName × RemoteFailure)
  /-- How many objects were created. -/
  counter : Nat
  calls : List Call

namespace MemoryRemote

/-- A remote without objects. -/
def empty : MemoryRemote :=
  ⟨.empty, .empty, .empty, [], 0, []⟩

/-- The store of a kind. -/
def store (remote : MemoryRemote) : ObjectKind → OrderedMap Value
  | .optionSet => remote.optionSets
  | .table => remote.tables
  | .relationship => remote.relationships

/-- Replace the store of a kind. -/
def withStore (remote : MemoryRemote) (kind : ObjectKind) (store : OrderedMap Value) :
    MemoryRemote :=
  match kind with
  | .optionSet => { remote with optionSets := store }
  | .table => { remote with tables := store }
  | .relationship => { remote with relationships := store }

/-- Store an identifier under a name. -/
def seed (remote : MemoryRemote) (kind : ObjectKind) (name : String) (id : Value) :
    MemoryRemote :=
  remote.withStore kind ((remote.store kind).insert name id)

/-- Forget a name. -/
def drop (remote : MemoryRemote) (kind : ObjectKind) (name : String) : MemoryRemote :=
  remote.withStore kind ((remote.store kind).erase name)

/-- The identifier that is stored under a name. -/
def identifier (remote : MemoryRemote) (kind : ObjectKind) (name : String) : Value :=
  ((remote.store kind).get? name).getD .null

/-- Remember a call. -/
def record (remote : MemoryRemote) (call : Call) : MemoryRemote :=
  { remote with calls := remote.calls ++ [call] }

/-- The columns of a payload, as far as they are remembered. -/
def columnsOf (payload : TablePayload) : List ColumnTrace :=
  payload.attributes.map fun a => ⟨a.kind.word, a.schemaName, a.optionSetId?⟩

/-- The call by which a payload is created. -/
def creation : Payload → Call
  | .table payload => .createTable payload.schemaName (columnsOf payload)
  | payload => .create payload.kind payload.name

/-- Find an object by its name. -/
def find (kind : ObjectKind) (name : String) (remote : MemoryRemote) :
    Performed MemoryRemote ClientError RemoteId :=
  let called := remote.record (.find kind name)
  match remote.failures.lookup (.find name) with
  | some failure => ⟨.error (.failure failure), [], called⟩
  | none => ⟨.ok (.ofValue (remote.identifier kind name)), [], called⟩

/-- The identifier that is given out next. -/
def nextIdentifier (remote : MemoryRemote) : String :=
  s!"id-{remote.counter + 1}"

/-- Create an object under the name of its payload. -/
def create (payload : Payload) (remote : MemoryRemote) :
    Performed MemoryRemote ClientError RemoteId :=
  match remote.failures.lookup (.create payload.name) with
  | some failure =>
    ⟨.error (.failure failure), [], remote.record (.create payload.kind payload.name)⟩
  | none =>
    let called := { remote.record (creation payload) with counter := remote.counter + 1 }
    match (remote.store payload.kind).get? payload.name with
    | some id => ⟨.ok (.ofValue id), [], called⟩
    | none =>
      let id := remote.nextIdentifier
      ⟨.ok (.text id), [], called.seed payload.kind payload.name (.text id)⟩

/-- The remote as a client sees it. -/
def client : Client MemoryRemote :=
  ⟨find, create⟩

end MemoryRemote

end ErdDeploy
