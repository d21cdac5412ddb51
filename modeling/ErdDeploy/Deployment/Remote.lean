import ErdDeploy.Data.Value
import ErdDeploy.Log
import ErdDeploy.Metadata.Payload

/-!
The remote, as far as a run can see it: objects are found by name and created from payloads.

What a call returns may be anything that a remote answers with, so an identifier need not be a
text. A call may fail, which concerns one object only, or run into an answer that nobody can
make sense of or a wait that nobody can keep, which ends the run.
-/

namespace ErdDeploy

/-- An action on a state: what it comes to, what it logs, and the state it leaves. -/
structure Performed (σ ε α : Type) where
  result : Except ε α
  log : List LogEntry
  state : σ

/-- What the remote gives as the identifier of an object. -/
inductive RemoteId
  | absent
  | text (id : String)
  /-- Something that is no text. -/
  | other (value : Value)
  deriving Repr

namespace RemoteId

/-- The identifier that plain data stands for. -/
def ofValue : Value → RemoteId
  | .null => .absent
  | .text id => .text id
  | value => .other value

/-- The plain data of an identifier. -/
def toValue : RemoteId → Value
  | .absent => .null
  | .text id => .text id
  | .other value => value

end RemoteId

/-- A call that the remote refused or that did not get through. -/
structure RemoteFailure where
  text : String
  status : Option Int
  /-- The code that the remote gave, whatever it is. -/
  code : Value
  deriving Repr

/-- What is reported of a failed call. -/
def RemoteFailure.message (failure : RemoteFailure) : String :=
  match failure.status with
  | some status => s!"HTTP {status}: {failure.text}"
  | none => failure.text

/-- Why a wait fails. -/
inductive WaitFailure
  /-- It is to take a time that is not a number. -/
  | notNumber
  /-- It is to take longer than the clock can count. -/
  | tooLong
  deriving DecidableEq, Repr

/-- An answer that a client cannot make sense of, a wait that it cannot keep, and misuse of a
client. -/
inductive Fault
  /-- The answer to a creation is no record. -/
  | creationNotRecord
  /-- The answer to a refused token request is no record. -/
  | tokenRefusalNotRecord
  /-- The lifetime of a token is a text that writes no number. -/
  | lifetimeNotNumeric
  /-- The lifetime of a token is neither a number nor a text. -/
  | lifetimeNotNumber
  /-- The lifetime of a token is a whole number beyond all floating point numbers. -/
  | lifetimeTooLarge
  /-- The lists and records of an answer stand too deep in each other. -/
  | bodyTooDeep
  /-- A payload was given to the creation of another kind of object, and lacks the name. -/
  | payloadOfOtherKind
  /-- The wait before a repetition failed. -/
  | wait (failure : WaitFailure)
  deriving DecidableEq, Repr

/-- Why a call has no result. -/
inductive ClientError
  | failure (failure : RemoteFailure)
  | fault (fault : Fault)
  deriving Repr

/-- The calls that a run makes, on a remote whose state is of some type. -/
structure Client (σ : Type) where
  find : ObjectKind → String → σ → Performed σ ClientError RemoteId
  create : Payload → σ → Performed σ ClientError RemoteId

end ErdDeploy
