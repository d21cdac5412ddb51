import ErdDeploy.Data.Value
import ErdDeploy.Deployment.Remote
import ErdDeploy.Number.Binary64
import ErdDeploy.Text.Letter

/-!
Requests, responses, and what carries them.

There are two kinds of requests: those to the metadata interface, and those for a token. A
`Transport` sends a request and gives back the response, or says why there is none; it also
waits, unless it cannot wait for so long, tells the time, and is closed in the end. What happens
beyond it is part of its state, so that a transport can be a network as well as a list of prepared
answers.
-/

namespace ErdDeploy

/-- What a request to the metadata interface asks for. -/
inductive Method
  | get
  | post
  deriving DecidableEq, Repr

/-- The name of a method. -/
def Method.word : Method → String
  | .get => "GET"
  | .post => "POST"

/-- A request to the metadata interface, apart from its headers. -/
structure Query where
  method : Method
  /-- Where the request goes, from the root of the interface on. -/
  path : String
  /-- What is asked about the object, if anything. -/
  parameters : Option (List (String × String))
  body : Option Value

/-- A request. -/
inductive Request
  /-- To the metadata interface. -/
  | query (url : String) (headers : List (String × String)) (query : Query) (timeout : Int)
  /-- For a token, with the members of a form. -/
  | token (url : String) (form : List (String × String)) (timeout : Int)

/-- An answer that arrived. -/
structure Response where
  status : Int
  /-- The status in words, if the server gave any. -/
  reason : Option String
  headers : List (String × String)
  body : String
  deriving DecidableEq, Repr

namespace Response

/-- Whether the status tells of no failure. -/
def isOk (response : Response) : Bool :=
  response.status < 400 || 600 ≤ response.status

/-- The value of a header. Names are compared without regard to case, and of two equal ones the
last has the word. -/
def header? (response : Response) (name : String) : Option String :=
  (response.headers.reverse.find? fun header =>
    Text.lowerString header.1 = Text.lowerString name).map Prod.snd

end Response

/-- Why there is no response. -/
structure TransportFailure where
  text : String
  deriving DecidableEq, Repr

/-- The first number of seconds that a clock of whole nanoseconds in 64 bits cannot count. -/
def WaitFailure.limit : Binary64 :=
  Binary64.ofRatio false (Binary64.twoTo 63) (Binary64.tenTo 9)

/-- Whether the clock of a system waits for a number of seconds that is not negative. -/
def WaitFailure.check (seconds : Binary64) : Except WaitFailure Unit :=
  if seconds = .nan then .error .notNumber
  else if Binary64.lt seconds limit then .ok ()
  else .error .tooLong

/-- What carries requests, with a state of type `σ` and times of type `τ`. -/
structure Transport (σ τ : Type) where
  send : Request → σ → Except TransportFailure Response × σ
  /-- Wait for a number of seconds. -/
  wait : Binary64 → σ → Except WaitFailure Unit × σ
  now : σ → τ
  /-- Give up what the transport holds. -/
  close : σ → σ

end ErdDeploy
