import ErdDeploy.Proofs.Deployment.Exchange
import ErdDeploy.Web.MetadataClient
import ErdDeploy.Web.Script

/-!
What passes between an endpoint and its transport.

`Transport.recording` is a transport that keeps every request with its reply, and every
wait with its outcome; `Endpoint.trail` is what it has kept when a query is settled. The relations
`Acquisition`, `Attempt` and `Attempts` say once how a token is acquired, how a query is
sent and how it is repeated, with any transport whatsoever: which events there are, and what
the query comes to. `Endpoint.send_recording` places every query in them.

The last event settles a query (`Query.Ending`): it is an answer of the interface, an answer
of an authority that withholds the token, a request that did not get through, or a wait that
failed. So an identifier is read in the answer of the interface on which the query ends
(`Endpoint.ask_ok_iff`), and a query that ends in a fault ends on an answer of one of the two or
on a wait (`Endpoint.ask_fault_iff`).
-/

namespace ErdDeploy

/-- What a client does beyond its own state. -/
inductive Event
  | sent (request : Request) (reply : Reply)
  | waited (seconds : Binary64) (outcome : Except WaitFailure Unit)

namespace Event

/-- The answer of the metadata interface that an event is, if it is one. -/
def answer? : Event → Option Response
  | .sent (.query ..) (.ok response) => some response
  | _ => none

/-- The answer of an authority that an event is, if it is one. -/
def tokenAnswer? : Event → Option Response
  | .sent (.token ..) (.ok response) => some response
  | _ => none

/-- Why a wait failed that an event is, if it is one that did. -/
def waitFailure? : Event → Option WaitFailure
  | .waited _ (.error failure) => some failure
  | _ => none

end Event

/-- The transport that keeps every request with its reply, and every wait with its outcome, beside
its state. -/
def Transport.recording {σ τ : Type} (transport : Transport σ τ) :
    Transport (σ × List Event) τ where
  send request state :=
    let (reply, world) := transport.send request state.1
    (reply, world, state.2 ++ [.sent request reply])
  wait seconds state :=
    let (outcome, world) := transport.wait seconds state.1
    (outcome, world, state.2 ++ [.waited seconds outcome])
  now state := transport.now state.1
  close state := (transport.close state.1, state.2)

/-- A connection with the events so far beside its world. -/
def Connected.beside {σ τ : Type} (state : Connected σ τ) (events : List Event) :
    Connected (σ × List Event) τ :=
  ⟨(state.world, events), state.cache⟩

/-- The request for a query with a token. -/
def Endpoint.request (endpoint : Endpoint) (token : Value) (query : Query) : Request :=
  .query (endpoint.baseUrl ++ query.path) (endpoint.headers token) query endpoint.timeout

/-- What a query comes to that did not get through. -/
def Query.unreached (query : Query) (failure : TransportFailure) : ClientError :=
  failure.toClientError (query.method.word ++ " " ++ query.path ++ " failed")

namespace Endpoint

variable {σ τ : Type} [Reckoning τ] (endpoint : Endpoint) (transport : Transport σ τ)
  (query : Query) (state : Connected σ τ)

/-- The events until a query is settled. -/
def trail : List Event :=
  (endpoint.send transport.recording query (state.beside [])).state.world.2

/-- The answer of the metadata interface on which a query ends, if it ends on one. -/
def lastAnswer? : Option Response :=
  (endpoint.trail transport query state).getLast?.bind Event.answer?

/-- The answer of an authority on which a query ends, if it ends on one. -/
def lastTokenAnswer? : Option Response :=
  (endpoint.trail transport query state).getLast?.bind Event.tokenAnswer?

/-- Why the wait failed on which a query ends, if it ends on one. -/
def lastWaitFailure? : Option WaitFailure :=
  (endpoint.trail transport query state).getLast?.bind Event.waitFailure?

end Endpoint

/-! ## Tokens -/

/-- Why an answer of an authority gives no token. -/
inductive Response.Withholds (τ : Type) [Reckoning τ] (response : Response) : ClientError → Prop
  | refused : response.isOk = false → Withholds τ response response.tokenRefusal
  | missing {error : ClientError} : response.isOk = true → response.token = .error error →
      Withholds τ response error
  | unreadable {token stated : Value} {members : List (String × Value)} {fault : Fault} :
      response.isOk = true → response.token = .ok (token, members) →
      members.lookup "expires_in" = some stated →
      (Reckoning.lifetime stated : Except Fault τ) = .error fault →
      Withholds τ response (.fault fault)

/-- An answer gives no token for one reason only. -/
theorem Response.Withholds.unique {τ : Type} [Reckoning τ] {response : Response}
    {error error' : ClientError} (left : response.Withholds τ error)
    (right : response.Withholds τ error') : error = error' := by
  cases left with
  | refused status =>
      cases right with
      | refused _ => rfl
      | missing ok _ => exact absurd (status.symm.trans ok) Bool.false_ne_true
      | unreadable ok _ _ _ => exact absurd (status.symm.trans ok) Bool.false_ne_true
  | missing ok read =>
      cases right with
      | refused status => exact absurd (status.symm.trans ok) Bool.false_ne_true
      | missing _ read' => exact Except.error.inj (read.symm.trans read')
      | unreadable _ read' _ _ => cases read.symm.trans read'
  | unreadable ok read named reckoned =>
      cases right with
      | refused status => exact absurd (status.symm.trans ok) Bool.false_ne_true
      | missing _ read' => cases read.symm.trans read'
      | unreadable _ read' named' reckoned' =>
          cases read.symm.trans read'
          cases named.symm.trans named'
          rw [Except.error.inj (reckoned.symm.trans reckoned')]

/-- How a token is acquired: the events, and the token or why there is none. -/
inductive Acquisition (τ : Type) [Reckoning τ] :
    TokenSource → List Event → Except ClientError Value → Prop
  | given (token : String) : Acquisition τ (.given token) [] (.ok (.text token))
  | served (credentials : Credentials) (token : Value) :
      Acquisition τ (.fetched credentials) [] (.ok token)
  | unreached (credentials : Credentials) (failure : TransportFailure) :
      Acquisition τ (.fetched credentials) [.sent credentials.request (.error failure)]
        (.error (failure.toClientError "Token request failed"))
  | withheld (credentials : Credentials) {response : Response} {error : ClientError} :
      response.Withholds τ error →
      Acquisition τ (.fetched credentials) [.sent credentials.request (.ok response)]
        (.error error)
  | granted (credentials : Credentials) {response : Response} {token : Value}
      {members : List (String × Value)} :
      response.isOk = true → response.token = .ok (token, members) →
      (∀ stated, members.lookup "expires_in" = some stated →
        ∃ lifetime : τ, Reckoning.lifetime stated = .ok lifetime) →
      Acquisition τ (.fetched credentials) [.sent credentials.request (.ok response)] (.ok token)

/-! ## Queries -/

section

variable (τ : Type) [Reckoning τ] (endpoint : Endpoint) (query : Query)

/-- How a query is sent once. -/
inductive Attempt : List Event → Except ClientError Response → Prop
  | tokenless {events error} : Acquisition τ endpoint.tokens events (.error error) →
      Attempt events (.error error)
  | unreached {events token} (failure : TransportFailure) :
      Acquisition τ endpoint.tokens events (.ok token) →
      Attempt (events ++ [.sent (endpoint.request token query) (.error failure)])
        (.error (query.unreached failure))
  | answered {events token} (response : Response) :
      Acquisition τ endpoint.tokens events (.ok token) →
      Attempt (events ++ [.sent (endpoint.request token query) (.ok response)]) (.ok response)

/-- How a query is sent, and repeated as long as it is put off, repetitions are left and the wait
before them does not fail. -/
inductive Attempts : Nat → List Event → Except ClientError Response → Prop
  | last {events result} : Attempt τ endpoint query events result → Attempts 0 events result
  | failed {left events error} : Attempt τ endpoint query events (.error error) →
      Attempts (left + 1) events (.error error)
  | settled {left events response} : Attempt τ endpoint query events (.ok response) →
      response.status ≠ throttledStatus → Attempts (left + 1) events (.ok response)
  | repeated {left events response later result} :
      Attempt τ endpoint query events (.ok response) → response.status = throttledStatus →
      Attempts left later result →
      Attempts (left + 1) (events ++ .waited response.wait (.ok ()) :: later) result
  | stranded {left events response} (failure : WaitFailure) :
      Attempt τ endpoint query events (.ok response) → response.status = throttledStatus →
      Attempts (left + 1) (events ++ [.waited response.wait (.error failure)])
        (.error (.fault (.wait failure)))

/-- How the last event settles a query. -/
inductive Query.Ending : Event → Except ClientError Response → Prop
  | unauthorized (credentials : Credentials) (failure : TransportFailure) :
      Ending (.sent credentials.request (.error failure))
        (.error (failure.toClientError "Token request failed"))
  | withheld (credentials : Credentials) {response : Response} {error : ClientError} :
      response.Withholds τ error →
      Ending (.sent credentials.request (.ok response)) (.error error)
  | unreached (token : Value) (failure : TransportFailure) :
      Ending (.sent (endpoint.request token query) (.error failure))
        (.error (query.unreached failure))
  | answered (token : Value) (response : Response) :
      Ending (.sent (endpoint.request token query) (.ok response)) (.ok response)
  | stranded (seconds : Binary64) (failure : WaitFailure) :
      Ending (.waited seconds (.error failure)) (.error (.fault (.wait failure)))

end

section

variable {τ : Type} [Reckoning τ] {endpoint : Endpoint} {query : Query} {events : List Event}
  {result : Except ClientError Response}

theorem Acquisition.ending (endpoint : Endpoint) (query : Query) {source : TokenSource}
    {error : ClientError} (acquisition : Acquisition τ source events (.error error)) :
    ∃ last, events = [last] ∧ Query.Ending τ endpoint query last (.error error) := by
  cases acquisition with
  | unreached credentials failure => exact ⟨_, rfl, .unauthorized credentials failure⟩
  | withheld credentials why => exact ⟨_, rfl, .withheld credentials why⟩

theorem Attempt.ending (attempt : Attempt τ endpoint query events result) :
    ∃ earlier last, events = earlier ++ [last] ∧ Query.Ending τ endpoint query last result := by
  cases attempt with
  | tokenless acquisition =>
      rcases acquisition.ending endpoint query with ⟨last, rfl, ending⟩
      exact ⟨[], last, rfl, ending⟩
  | unreached failure acquisition => exact ⟨_, _, rfl, .unreached _ failure⟩
  | answered response acquisition => exact ⟨_, _, rfl, .answered _ response⟩

/-- However often a query is repeated, its last event settles it. -/
theorem Attempts.ending {left : Nat} (attempts : Attempts τ endpoint query left events result) :
    ∃ earlier last, events = earlier ++ [last] ∧ Query.Ending τ endpoint query last result := by
  induction attempts with
  | last attempt => exact attempt.ending
  | failed attempt => exact attempt.ending
  | settled attempt _ => exact attempt.ending
  | @repeated left events response later result _ _ _ ih =>
      rcases ih with ⟨earlier, last, rfl, ending⟩
      exact ⟨events ++ .waited response.wait (.ok ()) :: earlier, last, by simp, ending⟩
  | stranded failure _ _ => exact ⟨_, _, rfl, .stranded _ failure⟩

end

/-! ## Recording -/

section

variable {σ τ : Type} {transport : Transport σ τ}

theorem Transport.recording_send {request : Request} {state : Connected σ τ} {reply : Reply}
    {world : σ} (sent : transport.send request state.world = (reply, world))
    (past : List Event) :
    transport.recording.send request (state.beside past).world =
      (reply, world, past ++ [.sent request reply]) := by
  simp only [recording, Connected.beside, sent]

theorem Transport.recording_wait {seconds : Binary64} {state : Connected σ τ}
    {outcome : Except WaitFailure Unit} {world : σ}
    (waited : transport.wait seconds state.world = (outcome, world)) (past : List Event) :
    transport.recording.wait seconds (state.beside past).world =
      (outcome, world, past ++ [.waited seconds outcome]) := by
  simp only [recording, Connected.beside, waited]

variable [Reckoning τ]

/-- Reading a token from an answer goes in one of the ways of `Acquisition`, and does not touch
the events. -/
theorem Connected.keep_acquisition (transport : Transport σ τ) (credentials : Credentials)
    {response : Response}
    (accepted : response.isOk = true) (state : Connected σ τ) :
    Acquisition τ (.fetched credentials) [.sent credentials.request (.ok response)]
        (keep transport response state).result ∧
      ∀ events, keep transport.recording response (state.beside events) =
        (keep transport response state).under
          ((keep transport response state).state.beside events) := by
  rcases read : response.token with error | ⟨token, members⟩
  · simp only [keep, read]
    exact ⟨.withheld credentials (.missing accepted read), fun events => rfl⟩
  · rcases named : members.lookup "expires_in" with _ | stated
    · simp only [keep, read, named]
      exact ⟨.granted credentials accepted read (by simp [named]), fun events => rfl⟩
    · rcases reckoned : (Reckoning.lifetime stated : Except Fault τ) with fault | lifetime
      · simp only [keep, read, named, reckoned]
        exact ⟨.withheld credentials (.unreadable accepted read named reckoned),
          fun events => rfl⟩
      · simp only [keep, read, named, reckoned]
        exact ⟨.granted credentials accepted read (by simp [named, reckoned]),
          fun events => rfl⟩

/-- Fetching a token goes in one of the ways of `Acquisition`, with one request. -/
theorem Connected.fetch_recording (transport : Transport σ τ) (credentials : Credentials)
    (state : Connected σ τ) (past : List Event) :
    ∃ events,
      Acquisition τ (.fetched credentials) events (fetch transport credentials state).result ∧
      fetch transport.recording credentials (state.beside past) =
        (fetch transport credentials state).under
          ((fetch transport credentials state).state.beside (past ++ events)) := by
  rcases sent : transport.send credentials.request state.world with ⟨reply, world⟩
  refine ⟨[.sent credentials.request reply], ?_⟩
  simp only [fetch, sent, Transport.recording_send sent past]
  cases reply with
  | error failure => exact ⟨.unreached credentials failure, rfl⟩
  | ok response =>
      cases accepted : response.isOk with
      | false =>
          simp only [accepted, Bool.false_eq_true, if_false]
          exact ⟨.withheld credentials (.refused accepted), rfl⟩
      | true =>
          rcases keep_acquisition transport credentials accepted
            { state with world := world } with ⟨acquisition, kept⟩
          simp only [accepted, if_true]
          exact ⟨acquisition, kept _⟩

theorem TokenSource.token_recording (source : TokenSource) (transport : Transport σ τ)
    (state : Connected σ τ) (past : List Event) :
    ∃ events,
      Acquisition τ source events (source.token transport state).result ∧
      source.token transport.recording (state.beside past) =
        (source.token transport state).under
          ((source.token transport state).state.beside (past ++ events)) := by
  cases source with
  | given text => exact ⟨[], .given text, by simp [token, Performed.under]⟩
  | fetched credentials =>
      have asked : transport.recording.now (state.beside past).world =
          transport.now state.world := rfl
      have cache : (state.beside past).cache = state.cache := rfl
      rcases cached : state.cache.fresh? (transport.now state.world) with _ | text
      · simp only [token, Connected.acquire, asked, cache, cached]
        exact Connected.fetch_recording transport credentials state past
      · simp only [token, Connected.acquire, asked, cache, cached]
        exact ⟨[], .served credentials text, by simp [Performed.under]⟩

namespace Endpoint

variable (endpoint : Endpoint) (transport : Transport σ τ) (query : Query)

theorem sendOnce_recording (state : Connected σ τ) (past : List Event) :
    ∃ events,
      Attempt τ endpoint query events (endpoint.sendOnce transport query state).result ∧
      endpoint.sendOnce transport.recording query (state.beside past) =
        (endpoint.sendOnce transport query state).under
          ((endpoint.sendOnce transport query state).state.beside (past ++ events)) := by
  rcases endpoint.tokens.token_recording transport state past with
    ⟨events, acquisition, recorded⟩
  rcases acquired : endpoint.tokens.token transport state with ⟨result, log, middle⟩
  rw [acquired] at acquisition recorded
  cases result with
  | error error =>
      simp only [sendOnce, acquired, recorded, Performed.under]
      exact ⟨events, .tokenless acquisition, rfl⟩
  | ok token =>
      rcases sent : transport.send (endpoint.request token query) middle.world with
        ⟨reply, world⟩
      have kept := Transport.recording_send sent (past ++ events)
      rw [request] at sent kept
      refine ⟨events ++ [.sent (endpoint.request token query) reply], ?_⟩
      rw [← List.append_assoc]
      simp only [sendOnce, acquired, recorded, Performed.under, sent, kept]
      cases reply with
      | error failure => exact ⟨.unreached failure acquisition, rfl⟩
      | ok response => exact ⟨.answered response acquisition, rfl⟩

theorem sendRepeating_recording (left repetition : Nat) (state : Connected σ τ)
    (past : List Event) :
    ∃ events,
      Attempts τ endpoint query left events
        (endpoint.sendRepeating transport query repetition left state).result ∧
      endpoint.sendRepeating transport.recording query repetition left (state.beside past) =
        (endpoint.sendRepeating transport query repetition left state).under
          ((endpoint.sendRepeating transport query repetition left state).state.beside
            (past ++ events)) := by
  induction left generalizing repetition state past with
  | zero =>
      rcases endpoint.sendOnce_recording transport query state past with
        ⟨events, attempt, recorded⟩
      exact ⟨events, .last attempt, recorded⟩
  | succ left ih =>
      rcases endpoint.sendOnce_recording transport query state past with
        ⟨events, attempt, recorded⟩
      rcases sent : endpoint.sendOnce transport query state with ⟨result, log, middle⟩
      rw [sent] at attempt recorded
      cases result with
      | error error =>
          simp only [sendRepeating, sent, recorded, Performed.under]
          exact ⟨events, .failed attempt, rfl⟩
      | ok response =>
          by_cases throttled : response.status = throttledStatus
          · have again : (response.status != throttledStatus) = false := by simp [throttled]
            rcases waited : transport.wait response.wait middle.world with ⟨outcome, world⟩
            have kept := Transport.recording_wait waited (past ++ events)
            cases outcome with
            | error failure =>
                refine ⟨events ++ [.waited response.wait (.error failure)], ?_⟩
                rw [← List.append_assoc]
                simp only [sendRepeating, sent, recorded, Performed.under, again,
                  Bool.false_eq_true, if_false, waited, kept]
                exact ⟨.stranded failure attempt throttled, rfl⟩
            | ok done =>
                -- The repetition starts behind the wait, with all events so far as its past.
                let next : Connected σ τ := { middle with world := world }
                rcases ih (repetition + 1) next
                  (past ++ events ++ [.waited response.wait (.ok ())]) with
                  ⟨later, attempts, repeated⟩
                have behind : { middle.beside (past ++ events) with
                    world := (world, past ++ events ++ [.waited response.wait (.ok ())]) } =
                    next.beside (past ++ events ++ [.waited response.wait (.ok ())]) := rfl
                have joined : past ++ (events ++ .waited response.wait (.ok ()) :: later) =
                    past ++ events ++ [.waited response.wait (.ok ())] ++ later := by
                  simp only [List.append_assoc, List.singleton_append]
                refine ⟨events ++ .waited response.wait (.ok ()) :: later, ?_⟩
                rw [joined]
                simp only [sendRepeating, sent, recorded, Performed.under, again,
                  Bool.false_eq_true, if_false, waited, kept, behind, repeated]
                exact ⟨.repeated attempt throttled attempts, rfl⟩
          · have done : (response.status != throttledStatus) = true := by simp [throttled]
            simp only [sendRepeating, sent, recorded, Performed.under, done, if_true]
            exact ⟨events, .settled attempt throttled, rfl⟩

/-- Every query goes in one of the ways of `Attempts`, and keeping the events changes nothing
about it. -/
theorem send_recording (state : Connected σ τ) :
    Attempts τ endpoint query endpoint.maxRetries.toNat (endpoint.trail transport query state)
        (endpoint.send transport query state).result ∧
      endpoint.send transport.recording query (state.beside []) =
        (endpoint.send transport query state).under
          ((endpoint.send transport query state).state.beside
            (endpoint.trail transport query state)) := by
  rcases endpoint.sendRepeating_recording transport query endpoint.maxRetries.toNat 1 state []
    with ⟨events, attempts, recorded⟩
  have kept : endpoint.trail transport query state = events := by
    rw [trail, send, recorded]
    rfl
  rw [kept]
  exact ⟨attempts, recorded⟩

theorem ask_ending (read : Response → Except ClientError RemoteId) (state : Connected σ τ) :
    ∃ last result, endpoint.lastAnswer? transport query state = last.answer? ∧
      endpoint.lastTokenAnswer? transport query state = last.tokenAnswer? ∧
      endpoint.lastWaitFailure? transport query state = last.waitFailure? ∧
      Query.Ending τ endpoint query last result ∧
      (endpoint.ask transport query read state).result = result.bind read := by
  rcases (endpoint.send_recording transport query state).1.ending with
    ⟨earlier, last, trail, ending⟩
  refine ⟨last, _, ?_, ?_, ?_, ending, rfl⟩
  · rw [lastAnswer?, trail, List.getLast?_concat, Option.bind_some]
  · rw [lastTokenAnswer?, trail, List.getLast?_concat, Option.bind_some]
  · rw [lastWaitFailure?, trail, List.getLast?_concat, Option.bind_some]

/-- An identifier is what is read in the answer of the interface on which the query ends. -/
theorem ask_ok_iff (read : Response → Except ClientError RemoteId) (state : Connected σ τ)
    (id : RemoteId) :
    (endpoint.ask transport query read state).result = .ok id ↔
      ∃ response, endpoint.lastAnswer? transport query state = some response ∧
        read response = .ok id := by
  rcases endpoint.ask_ending transport query read state with
    ⟨last, result, answer, -, -, ending, same⟩
  rw [answer, same]
  cases ending with
  | unauthorized credentials failure => simp [Except.bind, Event.answer?]
  | withheld credentials why =>
      simp [Except.bind, Event.answer?, Credentials.request]
  | unreached token failure => simp [Except.bind, Event.answer?]
  | answered token response => simp [Except.bind, Event.answer?, request]
  | stranded seconds failure => simp [Except.bind, Event.answer?]

/-- A query ends in a fault if an authority withholds the token with that fault, if the answer of
the interface is read so, or if a wait fails with it. -/
theorem ask_fault_iff (read : Response → Except ClientError RemoteId) (state : Connected σ τ)
    (fault : Fault) :
    (endpoint.ask transport query read state).result = .error (.fault fault) ↔
      (∃ response, endpoint.lastTokenAnswer? transport query state = some response ∧
        response.Withholds τ (.fault fault)) ∨
      (∃ response, endpoint.lastAnswer? transport query state = some response ∧
        read response = .error (.fault fault)) ∨
      ∃ failure, endpoint.lastWaitFailure? transport query state = some failure ∧
        .wait failure = fault := by
  rcases endpoint.ask_ending transport query read state with
    ⟨last, result, answer, tokenAnswer, waitFailure, ending, same⟩
  rw [answer, tokenAnswer, waitFailure, same]
  cases ending with
  | unauthorized credentials failure =>
      simp [Except.bind, Event.answer?, Event.tokenAnswer?, Event.waitFailure?,
        TransportFailure.toClientError]
  | @withheld credentials response error why =>
      -- An answer that withholds the token does so for one reason, so the fault is this one.
      have only : response.Withholds τ (.fault fault) ↔ error = .fault fault :=
        ⟨why.unique, fun eq => eq ▸ why⟩
      simp [Except.bind, Event.answer?, Event.tokenAnswer?, Event.waitFailure?,
        Credentials.request, only]
  | unreached token failure =>
      simp [Except.bind, Event.answer?, Event.tokenAnswer?, Event.waitFailure?, Query.unreached,
        TransportFailure.toClientError]
  | answered token response =>
      simp [Except.bind, Event.answer?, Event.tokenAnswer?, Event.waitFailure?, request]
  | stranded seconds failure =>
      simp [Except.bind, Event.answer?, Event.tokenAnswer?, Event.waitFailure?]

end Endpoint

end

end ErdDeploy
