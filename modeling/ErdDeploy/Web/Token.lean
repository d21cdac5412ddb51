import ErdDeploy.Deployment.Remote
import ErdDeploy.Json.Reader
import ErdDeploy.Web.Message

/-!
Access tokens.

A token is either given beforehand or fetched from an authority with the credentials of an
application. A fetched token is kept, and served without a request until one minute before its
lifetime ends. An authority may put anything in the place of a token; only null is not kept.

How times are added and compared is left open: a clock may tell exact times or rounded ones.
-/

namespace ErdDeploy

/-! ## Times -/

/-- How times are reckoned with. -/
class Reckoning (τ : Type) where
  /-- A time before which no clock starts. -/
  start : τ
  /-- Whether one time comes before another. -/
  isBefore : τ → τ → Bool
  /-- The time at which a token is given up that arrived at a time with a lifetime: a minute
  before the lifetime ends. -/
  expiry : (arrival lifetime : τ) → τ
  /-- A lifetime in whole seconds. -/
  ofSeconds : Int → τ
  /-- The lifetime that an authority states, if it can be made out. -/
  lifetime : Value → Except Fault τ

/-- How long before the end of its lifetime a token is given up, in seconds. -/
def expiryMargin : Int := 60

/-- The lifetime of a token that comes without one, in seconds. -/
def defaultLifetime : Int := 3600

/-- A stated lifetime as a floating point number. -/
def Binary64.ofLifetime : Value → Except Fault Binary64
  | .int n =>
    match Binary64.ofInt n with
    | .infinity _ => .error .lifetimeTooLarge
    | x => .ok x
  | .bool b => .ok (Binary64.ofInt (if b then 1 else 0))
  | .float x => .ok x
  | .text s =>
    match DecimalText.read? s.toList with
    | some x => .ok x
    | none => .error .lifetimeNotNumeric
  | _ => .error .lifetimeNotNumber

/-- Times as floating point numbers; each step of a reckoning is rounded. -/
instance : Reckoning Binary64 where
  start := Binary64.zero false
  isBefore := Binary64.lt
  expiry arrival lifetime :=
    Binary64.sub (Binary64.add arrival lifetime) (Binary64.ofInt expiryMargin)
  ofSeconds := Binary64.ofInt
  lifetime := Binary64.ofLifetime

/-! ## Fetching -/

/-- The authority that is asked where none is named. -/
def defaultAuthority : String := "https://login.microsoftonline.com"

/-- How long a response is waited for where nothing else is said, in seconds. -/
def defaultTimeout : Int := 30

/-- What an application shows to an authority to get a token. -/
structure Credentials where
  tenantId : String
  clientId : String
  clientSecret : String
  /-- What the token is to give access to. -/
  resource : String
  authority : String := defaultAuthority
  timeout : Int := defaultTimeout
  deriving DecidableEq, Repr

/-- A text without the slashes at its end. -/
def withoutTrailingSlashes (s : String) : String :=
  String.ofList (Text.dropEndWhile (· == '/') s.toList)

/-- The request for a token. -/
def Credentials.request (credentials : Credentials) : Request :=
  .token
    (withoutTrailingSlashes credentials.authority ++ "/" ++ credentials.tenantId ++
      "/oauth2/v2.0/token")
    [("grant_type", "client_credentials"), ("client_id", credentials.clientId),
      ("client_secret", credentials.clientSecret),
      ("scope", withoutTrailingSlashes credentials.resource ++ "/.default")]
    credentials.timeout

/-- The token that was fetched last, and when it is given up. -/
structure TokenCache (τ : Type) where
  token : Value
  expiresAt : τ

namespace TokenCache

variable {τ : Type} [Reckoning τ]

/-- No token yet. -/
def empty : TokenCache τ :=
  ⟨.null, Reckoning.start⟩

/-- The token that may be served at a time without a request. -/
def fresh? (cache : TokenCache τ) (now : τ) : Option Value :=
  match cache.token with
  | .null => none
  | token => if Reckoning.isBefore now cache.expiresAt then some token else none

end TokenCache

/-! ## Answers of an authority -/

/-- The JSON of a body, if it is any, as far as it can be read. -/
def Response.json? (response : Response) : Except Fault (Option Value) :=
  match Json.read response.body.toList with
  | .ok value => .ok (some value)
  | .error .malformed => .ok none
  | .error .tooDeep => .error .bodyTooDeep

/-- A failure that a response tells of. -/
def Response.failure (response : Response) (text : String) (code : Value) : ClientError :=
  .failure ⟨text, some response.status, code⟩

/-- A call that did not get through. -/
def TransportFailure.toClientError (failure : TransportFailure) (what : String) : ClientError :=
  .failure ⟨what ++ ": " ++ failure.text, none, .null⟩

/-- A value if it counts as something, else a text if it is not empty, else another text. -/
def firstPresent (value : Value) (text otherwise : String) : String :=
  if value.isPresent then value.message else if text = "" then otherwise else text

/-- Why an authority refused. A body that is no JSON tells nothing more; JSON other than an
object makes no sense. -/
def Response.tokenRefusal (response : Response) : ClientError :=
  match response.json? with
  | .error fault => .fault fault
  | .ok none => response.failure (firstPresent .null response.body "Token request rejected") .null
  | .ok (some (.record members)) =>
    let member (name : String) : Value := (members.lookup name).getD .null
    response.failure
      (firstPresent (member "error_description") response.body "Token request rejected")
      (member "error")
  | .ok (some _) => .fault .tokenRefusalNotRecord

/-- What is reported of a response without a token. -/
def Response.tokenMissing (response : Response) : ClientError :=
  response.failure "Token response carries no access_token" .null

/-- The token in a response that is no refusal, with the members that stand beside it. -/
def Response.token (response : Response) :
    Except ClientError (Value × List (String × Value)) :=
  match response.json? with
  | .error fault => .error (.fault fault)
  | .ok (some (.record members)) =>
    match members.lookup "access_token" with
    | some token => .ok (token, members)
    | none => .error response.tokenMissing
  | .ok _ => .error response.tokenMissing

/-! ## Acquiring a token -/

/-- A transport's state together with the token that is kept. -/
structure Connected (σ τ : Type) where
  world : σ
  cache : TokenCache τ

namespace Connected

variable {σ τ : Type} [Reckoning τ]

/-- Keep the token of an accepted response. The token is kept even if its lifetime cannot be
made out; it is then given up when the one before it would have been. -/
def keep (transport : Transport σ τ) (response : Response) (state : Connected σ τ) :
    Performed (Connected σ τ) ClientError Value :=
  match response.token with
  | .error error => ⟨.error error, [], state⟩
  | .ok (token, members) =>
    let stated :=
      match members.lookup "expires_in" with
      | some value => Reckoning.lifetime value
      | none => .ok (Reckoning.ofSeconds defaultLifetime)
    match stated with
    | .error fault =>
      ⟨.error (.fault fault), [], { state with cache := ⟨token, state.cache.expiresAt⟩ }⟩
    | .ok lifetime =>
      ⟨.ok token, [⟨.debug, "Acquired access token"⟩],
        { state with
          cache := ⟨token, Reckoning.expiry (transport.now state.world) lifetime⟩ }⟩

/-- Fetch a token. -/
def fetch (transport : Transport σ τ) (credentials : Credentials) (state : Connected σ τ) :
    Performed (Connected σ τ) ClientError Value :=
  let (answer, world) := transport.send credentials.request state.world
  let state := { state with world := world }
  match answer with
  | .error failure => ⟨.error (failure.toClientError "Token request failed"), [], state⟩
  | .ok response =>
    if response.isOk then keep transport response state
    else ⟨.error response.tokenRefusal, [], state⟩

/-- The token that is kept, if it may be served, or else a fetched one. -/
def acquire (transport : Transport σ τ) (credentials : Credentials) (state : Connected σ τ) :
    Performed (Connected σ τ) ClientError Value :=
  match state.cache.fresh? (transport.now state.world) with
  | some token => ⟨.ok token, [], state⟩
  | none => fetch transport credentials state

end Connected

/-- Where tokens come from. -/
inductive TokenSource
  | given (token : String)
  | fetched (credentials : Credentials)
  deriving DecidableEq, Repr

/-- The token of a source. -/
def TokenSource.token {σ τ : Type} [Reckoning τ] (source : TokenSource)
    (transport : Transport σ τ) (state : Connected σ τ) :
    Performed (Connected σ τ) ClientError Value :=
  match source with
  | .given token => ⟨.ok (.text token), [], state⟩
  | .fetched credentials => Connected.acquire transport credentials state

end ErdDeploy
