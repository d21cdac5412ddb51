import ErdDeploy.Metadata.Body
import ErdDeploy.Web.Literal
import ErdDeploy.Web.Token

/-!
The client of the metadata interface.

An object is found by asking for the path that names it, and created by posting the body of its
payload to the collection of its kind. A request that the server puts off is repeated a bounded
number of times, each time after the wait that the server asks for; a wait that fails ends it. Of
a find only the status 404 says that there is no object; whatever else goes wrong is a failure.
-/

namespace ErdDeploy

/-- Where the metadata interface is, and how it is to be used. -/
structure Endpoint where
  environmentUrl : String
  tokens : TokenSource
  apiVersion : String := "9.2"
  /-- The solution that created objects are added to. -/
  solution : Option String := none
  /-- How often a request that is put off is repeated; a negative number stands for none. -/
  maxRetries : Int := 3
  timeout : Int := defaultTimeout

namespace Endpoint

/-- The root of the interface. -/
def baseUrl (endpoint : Endpoint) : String :=
  withoutTrailingSlashes endpoint.environmentUrl ++ "/api/data/v" ++ endpoint.apiVersion ++ "/"

/-- The header that names a solution, unless the name is empty. -/
def solutionHeader (endpoint : Endpoint) : List (String × String) :=
  match endpoint.solution with
  | some solution =>
    if solution = "" then [] else [("MSCRM.SolutionUniqueName", solution)]
  | none => []

/-- The headers of a request with a token. -/
def headers (endpoint : Endpoint) (token : Value) : List (String × String) :=
  [("Authorization", "Bearer " ++ token.message), ("Accept", "application/json"),
    ("Content-Type", "application/json; charset=utf-8"), ("OData-MaxVersion", "4.0"),
    ("OData-Version", "4.0")] ++ endpoint.solutionHeader

end Endpoint

/-! ## Requests that may be put off -/

/-- The wait before a repetition where the server names none, in seconds. -/
def defaultWait : Binary64 := Binary64.ofInt 5

/-- The wait that a response asks for; less than nothing counts as nothing. -/
def Response.wait (response : Response) : Binary64 :=
  match (response.header? "Retry-After").bind fun written => DecimalText.read? written.toList with
  | some seconds =>
    let zero := Binary64.zero false
    if Binary64.lt seconds zero then zero else seconds
  | none => defaultWait

/-- The status by which a server puts a request off. -/
def throttledStatus : Int := 429

/-- The warning about a request that was put off. -/
def throttled (query : Query) (repetition : Nat) (maxRetries : Int) (wait : Binary64) :
    LogEntry :=
  ⟨.warning,
    s!"Throttled on {query.method.word} {query.path}; retry {repetition}/{maxRetries} in " ++
      DecimalText.general 6 wait ++ "s"⟩

namespace Endpoint

variable {σ τ : Type} [Reckoning τ]

/-- Send a query once. Each time a token is acquired for it. -/
def sendOnce (endpoint : Endpoint) (transport : Transport σ τ) (query : Query)
    (state : Connected σ τ) : Performed (Connected σ τ) ClientError Response :=
  let acquired := endpoint.tokens.token transport state
  match acquired.result with
  | .error error => ⟨.error error, acquired.log, acquired.state⟩
  | .ok token =>
    let request : Request :=
      .query (endpoint.baseUrl ++ query.path) (endpoint.headers token) query endpoint.timeout
    let (answer, world) := transport.send request acquired.state.world
    let what := query.method.word ++ " " ++ query.path ++ " failed"
    ⟨answer.mapError (·.toClientError what), acquired.log,
      { acquired.state with world := world }⟩

/-- Send a query, and repeat it while it is put off and repetitions are left. The server may ask
for a wait that fails, and then there is no repetition. -/
def sendRepeating (endpoint : Endpoint) (transport : Transport σ τ) (query : Query)
    (repetition : Nat) : (left : Nat) → Connected σ τ →
    Performed (Connected σ τ) ClientError Response
  | 0, state => endpoint.sendOnce transport query state
  | left + 1, state =>
    let sent := endpoint.sendOnce transport query state
    match sent.result with
    | .error _ => sent
    | .ok response =>
      if response.status != throttledStatus then sent
      else
        let seconds := response.wait
        let warning := throttled query repetition endpoint.maxRetries seconds
        let (waited, world) := transport.wait seconds sent.state.world
        let state := { sent.state with world := world }
        match waited with
        | .error failure => ⟨.error (.fault (.wait failure)), sent.log ++ [warning], state⟩
        | .ok () =>
          let rest := sendRepeating endpoint transport query (repetition + 1) left state
          { rest with log := sent.log ++ warning :: rest.log }

/-- Send a query, with the repetitions that the endpoint allows. -/
def send (endpoint : Endpoint) (transport : Transport σ τ) (query : Query)
    (state : Connected σ τ) : Performed (Connected σ τ) ClientError Response :=
  endpoint.sendRepeating transport query 1 endpoint.maxRetries.toNat state

end Endpoint

/-! ## What responses say -/

/-- The code and the message of a refusal; the message is that of the body where it gives one. -/
def Response.refusalParts (response : Response) (body : Option Value) : Value × Value :=
  let plain := Value.text (firstPresent (.text response.body) (response.reason.getD "")
    "request failed")
  match body with
  | some (.record members) =>
    match (members.lookup "error").getD (.record []) with
    | .record error =>
      let message := (error.lookup "message").getD .null
      ((error.lookup "code").getD .null, if message.isPresent then message else plain)
    | _ => (.null, plain)
  | _ => (.null, plain)

/-- Why a request was refused. -/
def Response.refusal (response : Response) (action : String) : ClientError :=
  match response.json? with
  | .error fault => .fault fault
  | .ok body =>
    let (code, message) := response.refusalParts body
    response.failure (action ++ ": " ++ message.message) code

/-- The status that says that there is no such object. -/
def notFoundStatus : Int := 404

/-- The identifier in the answer to a find. -/
def Response.found (response : Response) (action : String) : Except ClientError RemoteId :=
  if response.status = notFoundStatus then .ok .absent
  else if !response.isOk then .error (response.refusal action)
  else
    match response.json? with
    | .error fault => .error (.fault fault)
    | .ok (some (.record members)) => .ok (.ofValue ((members.lookup "MetadataId").getD .null))
    | .ok _ => .error (response.failure (action ++ ": unreadable response body") .null)

/-! ### Identifiers in headers -/

/-- Whether a character is a hexadecimal digit. -/
def isHexDigit (c : Char) : Bool :=
  (Json.hexValue? c).isSome

/-- How many digits stand between the hyphens of an identifier. -/
def identifierGroups : List Nat := [8, 4, 4, 4, 12]

/-- Groups of hexadecimal digits with hyphens between them, and what follows. -/
def takeGroups? : (groups : List Nat) → List Char → Option (List Char × List Char)
  | [], cs => some ([], cs)
  | size :: groups, cs =>
    let digits := cs.take size
    if digits.length = size && digits.all isHexDigit then
      match groups, cs.drop size with
      | [], rest => some (digits, rest)
      | _, '-' :: rest =>
        (takeGroups? groups rest).map fun (more, after) => (digits ++ '-' :: more, after)
      | _, _ => none
    else none

/-- The first identifier that stands alone between parentheses. -/
def enclosedIdentifier? : List Char → Option (List Char)
  | [] => none
  | c :: cs =>
    match c, takeGroups? identifierGroups cs with
    | '(', some (identifier, ')' :: _) => some identifier
    | _, _ => enclosedIdentifier? cs

/-- The identifier in the answer to a creation: that of the header, or else that of the body.
A body that is JSON, but no object, makes no sense. -/
def Response.created (response : Response) (action : String) : Except ClientError RemoteId :=
  if !response.isOk then .error (response.refusal action)
  else
    match enclosedIdentifier? ((response.header? "OData-EntityId").getD "").toList with
    | some identifier => .ok (.text (String.ofList identifier))
    | none =>
      let missing := response.failure (action ++ ": response carries no identifier") .null
      match response.json? with
      | .error fault => .error (.fault fault)
      | .ok none => .error missing
      | .ok (some (.record members)) =>
        match members.lookup "MetadataId" with
        | some id => .ok (.ofValue id)
        | none => .error missing
      | .ok (some _) => .error (.fault .creationNotRecord)

/-! ## Objects -/

namespace ObjectKind

/-- What a kind of objects is called in a message. -/
def noun : ObjectKind → String
  | .optionSet => "option set"
  | .table => "table"
  | .relationship => "relationship"

/-- The collection of a kind. -/
def collection : ObjectKind → String
  | .optionSet => "GlobalOptionSetDefinitions"
  | .table => "EntityDefinitions"
  | .relationship => "RelationshipDefinitions"

/-- The member by which a kind is looked up. -/
def lookupMember : ObjectKind → String
  | .optionSet => "Name"
  | .table => "LogicalName"
  | .relationship => "SchemaName"

/-- The name by which an object is looked up: that of a table is in lower case. -/
def lookupName : ObjectKind → String → String
  | .optionSet, name => name
  | .table, name => Text.lowerString name
  | .relationship, name => name

/-- The path of an object. -/
def path (kind : ObjectKind) (name : String) : String :=
  kind.collection ++ "(" ++ kind.lookupMember ++ "=" ++ String.ofList
    (Literal.quote :: Literal.write (kind.lookupName name).toList ++ [Literal.quote]) ++ ")"

end ObjectKind

/-- The name of a payload as the creation of a kind reads it: an option set has another member
for it than the other two kinds. -/
def Payload.nameAs? (kind : ObjectKind) : Payload → Option String
  | .optionSet payload => if kind = .optionSet then some payload.name else none
  | .table payload => if kind = .optionSet then none else some payload.schemaName
  | .relationship payload => if kind = .optionSet then none else some payload.schemaName

/-- The query for an object. -/
def findQuery (kind : ObjectKind) (name : String) : Query :=
  ⟨.get, kind.path name, some [("$select", "MetadataId")], none⟩

/-- The query that creates an object. -/
def createQuery (kind : ObjectKind) (payload : Payload) : Query :=
  ⟨.post, kind.collection, none, some (Body.ofPayload payload)⟩

namespace Endpoint

variable {σ τ : Type} [Reckoning τ]

/-- Send a query and read its response. -/
def ask (endpoint : Endpoint) (transport : Transport σ τ) (query : Query)
    (read : Response → Except ClientError RemoteId) (state : Connected σ τ) :
    Performed (Connected σ τ) ClientError RemoteId :=
  let sent := endpoint.send transport query state
  ⟨sent.result.bind read, sent.log, sent.state⟩

/-- Find an object by its name. -/
def find (endpoint : Endpoint) (transport : Transport σ τ) (kind : ObjectKind) (name : String)
    (state : Connected σ τ) : Performed (Connected σ τ) ClientError RemoteId :=
  endpoint.ask transport (findQuery kind name)
    (·.found ("Find " ++ kind.noun ++ " " ++ name)) state

/-- Create an object of a kind from a payload, which should be of that kind. -/
def createAs (endpoint : Endpoint) (transport : Transport σ τ) (kind : ObjectKind)
    (payload : Payload) (state : Connected σ τ) :
    Performed (Connected σ τ) ClientError RemoteId :=
  match payload.nameAs? kind with
  | none => ⟨.error (.fault .payloadOfOtherKind), [], state⟩
  | some name =>
    endpoint.ask transport (createQuery kind payload)
      (·.created ("Create " ++ kind.noun ++ " " ++ name)) state

/-- Close the transport of an endpoint. -/
def close (transport : Transport σ τ) (state : Connected σ τ) : Connected σ τ :=
  { state with world := transport.close state.world }

/-- The endpoint as a run sees it. -/
def client (endpoint : Endpoint) (transport : Transport σ τ) : Client (Connected σ τ) where
  find := endpoint.find transport
  create payload := endpoint.createAs transport payload.kind payload

end Endpoint

end ErdDeploy
