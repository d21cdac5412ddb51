import ErdDeploy.Proofs.Web.Answers
import ErdDeploy.Proofs.Web.Trails

/-!
How often a query is repeated.

What comes of the requests of a query is given beforehand (`Outcomes`), one outcome for each
request, whatever it is. `Transport.answering` is a transport that answers queries so and leaves
everything else, the requests for tokens among it, to another transport.

A query is sent again for each outcome at the front that puts it off, but not more often than is
allowed: `Outcomes.repetitions` is the smaller of the two numbers
(`Outcomes.repetitions_eq_min`). Before each repetition is the wait that the answer before asks
for (`Course`), and the query comes to the outcome behind them, unless one of the waits fails and
cuts it short (`Endpoint.query_repeated`).
-/

namespace ErdDeploy

/-! ## Outcomes -/

/-- Whether what comes of a request puts the query off. -/
def Reply.putsOff : Reply → Bool
  | .ok response => response.status == throttledStatus
  | .error _ => false

/-- What comes of the requests of a query, one after the other. -/
abbrev Outcomes := Nat → Reply

namespace Outcomes

/-- The outcomes behind the first one. -/
def later (outcomes : Outcomes) : Outcomes :=
  fun i => outcomes (i + 1)

/-- The first few outcomes. -/
def first (outcomes : Outcomes) (count : Nat) : List Reply :=
  (List.range count).map outcomes

/-- How many outcomes put a query off before one does not, as far as some number of them. -/
def repetitions (outcomes : Outcomes) : (allowed : Nat) → Nat
  | 0 => 0
  | allowed + 1 =>
    if (outcomes 0).putsOff then repetitions outcomes.later allowed + 1 else 0

/-- So many outcomes at the front put a query off, and the next one does not. -/
structure Leading (outcomes : Outcomes) (count : Nat) : Prop where
  putsOff : ∀ i < count, (outcomes i).putsOff = true
  stops : (outcomes count).putsOff = false

variable {outcomes : Outcomes} {allowed : Nat}

theorem first_succ (outcomes : Outcomes) (count : Nat) :
    outcomes.first (count + 1) = outcomes 0 :: outcomes.later.first count := by
  rw [first, List.range_succ_eq_map, List.map_cons, List.map_map]
  rfl

theorem repetitions_succ_of_putsOff (putsOff : (outcomes 0).putsOff = true) :
    outcomes.repetitions (allowed + 1) = outcomes.later.repetitions allowed + 1 := by
  rw [repetitions, if_pos putsOff]

theorem repetitions_of_not_putsOff (stops : (outcomes 0).putsOff = false) (allowed : Nat) :
    outcomes.repetitions allowed = 0 := by
  cases allowed with
  | zero => rfl
  | succ allowed => rw [repetitions, stops, if_neg Bool.false_ne_true]

/-- A query is repeated as often as it is put off, but not more often than is allowed. -/
theorem repetitions_eq_min {count : Nat} (leading : outcomes.Leading count) :
    outcomes.repetitions allowed = min count allowed := by
  induction allowed generalizing outcomes count with
  | zero => rw [repetitions, Nat.min_zero]
  | succ allowed ih =>
      cases count with
      | zero => rw [repetitions_of_not_putsOff leading.stops, Nat.zero_min]
      | succ count =>
          have behind : outcomes.later.Leading count :=
            ⟨fun i below => leading.putsOff (i + 1) (by omega), leading.stops⟩
          rw [repetitions_succ_of_putsOff (leading.putsOff 0 (by omega)), ih behind]
          omega

/-- A query that is put off for ever is repeated as often as is allowed. -/
theorem repetitions_eq_allowed (always : ∀ i, (outcomes i).putsOff = true) :
    outcomes.repetitions allowed = allowed := by
  induction allowed generalizing outcomes with
  | zero => rfl
  | succ allowed ih =>
      have behind : ∀ i, (outcomes.later i).putsOff = true := fun i => always (i + 1)
      rw [repetitions_succ_of_putsOff (always 0), ih behind]

/-- The outcome behind the repetitions puts the query off only if no more of them are allowed. -/
theorem repetitions_eq_of_putsOff
    (putsOff : (outcomes (outcomes.repetitions allowed)).putsOff = true) :
    outcomes.repetitions allowed = allowed := by
  induction allowed generalizing outcomes with
  | zero => rfl
  | succ allowed ih =>
      cases first : (outcomes 0).putsOff with
      | false =>
          rw [repetitions_of_not_putsOff first, first] at putsOff
          cases putsOff
      | true =>
          rw [repetitions_succ_of_putsOff first] at putsOff ⊢
          rw [ih putsOff]

end Outcomes

/-- A transport that answers queries with outcomes that are given beforehand. Everything else is
left to another transport. -/
def Transport.answering {σ τ : Type} (carrier : Transport σ τ) :
    Transport (Outcomes × σ) τ where
  send request state :=
    match request with
    | .query .. => (state.1 0, (state.1.later, state.2))
    | .token .. =>
      let (reply, world) := carrier.send request state.2
      (reply, (state.1, world))
  wait seconds state :=
    let (outcome, world) := carrier.wait seconds state.2
    (outcome, state.1, world)
  now state := carrier.now state.2
  close state := (state.1, carrier.close state.2)

/-! ## Calls -/

namespace Event

/-- Whether an event is a request for a token. -/
def isToken : Event → Bool
  | .sent (.token ..) _ => true
  | _ => false

/-- The events of a query itself, without the requests for tokens. -/
def calls (events : List Event) : List Event :=
  events.filter fun event => !event.isToken

/-- The query that an event sends, if it sends one. -/
def query? : Event → Option Query
  | .sent (.query _ _ query _) _ => some query
  | _ => none

theorem calls_append (events more : List Event) :
    calls (events ++ more) = calls events ++ calls more :=
  List.filter_append events more

end Event

/-- The events of a query that comes to some outcomes one after the other: all of them are sent for
the same query, and between two of them is the wait that the first of the two asks for. If the wait
behind the last one fails, the course says why. -/
inductive Course (endpoint : Endpoint) (query : Query) :
    List Reply → Option WaitFailure → List Event → Prop
  | last (token : Value) (reply : Reply) :
    Course endpoint query [reply] none [.sent (endpoint.request token query) reply]
  | stranded (token : Value) (response : Response) (failure : WaitFailure) :
    Course endpoint query [.ok response] (some failure)
      [.sent (endpoint.request token query) (.ok response),
        .waited response.wait (.error failure)]
  | repeated (token : Value) {response : Response} {replies : List Reply}
    {stop : Option WaitFailure} {events : List Event} :
    Course endpoint query replies stop events →
    Course endpoint query (.ok response :: replies) stop
      (.sent (endpoint.request token query) (.ok response) ::
        .waited response.wait (.ok ()) :: events)

section

variable {endpoint : Endpoint} {query : Query} {events : List Event}

theorem Course.queries {replies : List Reply} {stop : Option WaitFailure}
    (course : Course endpoint query replies stop events) :
    events.filterMap Event.query? = List.replicate replies.length query := by
  induction course with
  | last => rfl
  | stranded => rfl
  | repeated token _ ih =>
      rw [List.length_cons, List.replicate_succ, ← ih]
      rfl

theorem Acquisition.calls_eq_nil {τ : Type} [Reckoning τ] {source : TokenSource}
    {result : Except ClientError Value} (acquisition : Acquisition τ source events result) :
    Event.calls events = [] := by
  cases acquisition with
  | given => rfl
  | served => rfl
  | unreached => rfl
  | withheld => rfl
  | granted => rfl

end

/-! ## Tokens -/

/-- The source always returns a token. -/
def TokenSource.Returns {σ τ : Type} [Reckoning τ] (source : TokenSource)
    (transport : Transport σ τ) : Prop :=
  ∀ state, ∃ token, (source.token transport state).result = .ok token

section

variable {σ τ : Type} {carrier : Transport σ τ}

theorem Connected.keep_answering [Reckoning τ] (response : Response)
    (state : Connected (Outcomes × σ) τ) :
    (keep carrier.answering response state).state.world = state.world := by
  unfold keep
  split
  · rfl
  · simp only
    split
    · rfl
    · rfl

/-- Acquiring a token uses up no outcome. -/
theorem TokenSource.token_answering [Reckoning τ] (source : TokenSource)
    (state : Connected (Outcomes × σ) τ) :
    (source.token carrier.answering state).state.world.1 = state.world.1 := by
  cases source with
  | given token => rfl
  | fetched credentials =>
      unfold token Connected.acquire
      simp only
      split
      · rfl
      · unfold Connected.fetch
        simp only
        split
        · rfl
        · split
          · rw [Connected.keep_answering]
            rfl
          · rfl

end

/-! ## Queries -/

namespace Endpoint

variable {σ τ : Type} {endpoint : Endpoint} {carrier : Transport σ τ}

/-- A query whose requests come to some outcomes, if so many repetitions are allowed, is repeated to
the end, or cut short by a wait that fails. -/
inductive Passes (endpoint : Endpoint) (carrier : Transport σ τ) (query : Query)
    (outcomes : Outcomes) (allowed : Nat) :
    List Event → Except ClientError Response → Prop
  | settled {calls : List Event} :
    Course endpoint query (outcomes.first (outcomes.repetitions allowed + 1)) none calls →
    Passes endpoint carrier query outcomes allowed calls
      ((outcomes (outcomes.repetitions allowed)).mapError query.unreached)
  | stranded {made : Nat} {response : Response} {world : σ} {failure : WaitFailure}
    {calls : List Event} :
    made < outcomes.repetitions allowed → outcomes made = .ok response →
    (carrier.wait response.wait world).1 = .error failure →
    Course endpoint query (outcomes.first (made + 1)) (some failure) calls →
    Passes endpoint carrier query outcomes allowed calls (.error (.fault (.wait failure)))

/-- A query without a repetition. -/
theorem Passes.once {query : Query} {outcomes : Outcomes} {allowed : Nat} (token : Value)
    (single : outcomes.repetitions allowed = 0) :
    Passes endpoint carrier query outcomes allowed
      [.sent (endpoint.request token query) (outcomes 0)]
      ((outcomes 0).mapError query.unreached) := by
  have course : Course endpoint query (outcomes.first (outcomes.repetitions allowed + 1)) none
      [.sent (endpoint.request token query) (outcomes 0)] := by
    rw [single]
    exact .last token _
  have settled : Passes endpoint carrier query outcomes allowed _ _ := .settled course
  rw [single] at settled
  exact settled

/-- A query that is put off at once, by an answer that asks for a wait that fails. -/
theorem Passes.cut {query : Query} {outcomes : Outcomes} {left : Nat} {response : Response}
    {world : σ} {failure : WaitFailure} (token : Value) (first : outcomes 0 = .ok response)
    (putsOff : (outcomes 0).putsOff = true)
    (failed : (carrier.wait response.wait world).1 = .error failure) :
    Passes endpoint carrier query outcomes (left + 1)
      [.sent (endpoint.request token query) (.ok response),
        .waited response.wait (.error failure)]
      (.error (.fault (.wait failure))) := by
  have fewer : 0 < outcomes.repetitions (left + 1) := by
    rw [Outcomes.repetitions_succ_of_putsOff putsOff]
    omega
  refine .stranded fewer first failed ?_
  rw [Outcomes.first_succ, first]
  exact .stranded token response failure

/-- An outcome that puts the query off, in front of a query that is repeated. -/
theorem Passes.repeated {query : Query} {outcomes : Outcomes} {left : Nat} {response : Response}
    {calls : List Event} {result : Except ClientError Response} (token : Value)
    (first : outcomes 0 = .ok response) (putsOff : (outcomes 0).putsOff = true)
    (later : Passes endpoint carrier query outcomes.later left calls result) :
    Passes endpoint carrier query outcomes (left + 1)
      (.sent (endpoint.request token query) (.ok response) ::
        .waited response.wait (.ok ()) :: calls) result := by
  have more : outcomes.repetitions (left + 1) = outcomes.later.repetitions left + 1 :=
    Outcomes.repetitions_succ_of_putsOff putsOff
  cases later with
  | settled course =>
      have behind : outcomes.later (outcomes.later.repetitions left) =
          outcomes (outcomes.repetitions (left + 1)) := by
        rw [more]
        rfl
      rw [behind]
      refine .settled ?_
      rw [more, Outcomes.first_succ, first]
      exact .repeated token course
  | stranded fewer last failed course =>
      refine .stranded (by omega) last failed ?_
      rw [Outcomes.first_succ, first]
      exact .repeated token course

variable [Reckoning τ]

/-- Sent once, a query uses up one outcome and comes to it. -/
theorem sendOnce_answering (returns : endpoint.tokens.Returns carrier.answering) (query : Query)
    (state : Connected (Outcomes × σ) τ) (past : List Event) :
    ∃ (token : Value) (events : List Event) (log : List LogEntry)
      (next : Connected (Outcomes × σ) τ),
      Event.calls events = [.sent (endpoint.request token query) (state.world.1 0)] ∧
      next.world.1 = state.world.1.later ∧
      endpoint.sendOnce carrier.answering.recording query (state.beside past) =
        ⟨(state.world.1 0).mapError query.unreached, log, next.beside (past ++ events)⟩ := by
  rcases returns state with ⟨token, returned⟩
  rcases endpoint.tokens.token_recording carrier.answering state past with
    ⟨before, acquisition, recorded⟩
  have untouched : (endpoint.tokens.token carrier.answering state).state.world.1 =
      state.world.1 := endpoint.tokens.token_answering state
  rcases acquired : endpoint.tokens.token carrier.answering state with ⟨result, log, middle⟩
  rw [acquired] at returned recorded untouched
  subst returned
  have same : middle.world.1 = state.world.1 := untouched
  rw [← same]
  let call : Event := .sent (endpoint.request token query) (middle.world.1 0)
  refine ⟨token, before ++ [call], log,
    ⟨(middle.world.1.later, middle.world.2), middle.cache⟩, ?_, rfl, ?_⟩
  · rw [Event.calls_append, acquisition.calls_eq_nil]
    rfl
  · have sent : carrier.answering.recording.send (endpoint.request token query)
        (middle.beside (past ++ before)).world =
        (middle.world.1 0, ((middle.world.1.later, middle.world.2), past ++ before ++ [call])) :=
      rfl
    rw [request] at sent
    simp only [sendOnce, recorded, Performed.under, sent]
    rw [← List.append_assoc]
    rfl

/-- An outcome that does not put the query off is what the query comes to. -/
theorem sendRepeating_of_stops {transport : Transport σ τ} {query : Query}
    {state next : Connected σ τ} {reply : Reply} {log : List LogEntry}
    (sent : endpoint.sendOnce transport query state =
      ⟨reply.mapError query.unreached, log, next⟩)
    (stops : reply.putsOff = false) (left repetition : Nat) :
    endpoint.sendRepeating transport query repetition left state =
      ⟨reply.mapError query.unreached, log, next⟩ := by
  cases left with
  | zero => rw [sendRepeating, sent]
  | succ left =>
      rw [sendRepeating, sent]
      cases reply with
      | error failure => rfl
      | ok response =>
          have other : (response.status == throttledStatus) = false := stops
          have same : Except.mapError query.unreached (.ok response) = .ok response := rfl
          simp only [same, bne, other, Bool.not_false, if_true]

/-- Behind an answer that puts the query off come the wait that it asks for and a repetition. -/
theorem sendRepeating_of_putsOff {transport : Transport σ τ} {query : Query}
    {state next : Connected σ τ} {response : Response} {log : List LogEntry} {world : σ}
    (sent : endpoint.sendOnce transport query state = ⟨.ok response, log, next⟩)
    (putsOff : Reply.putsOff (.ok response) = true)
    (waited : transport.wait response.wait next.world = (.ok (), world)) (left repetition : Nat) :
    ∃ log', endpoint.sendRepeating transport query repetition (left + 1) state =
      { endpoint.sendRepeating transport query (repetition + 1) left
          { next with world := world } with log := log' } := by
  have same : (response.status == throttledStatus) = true := putsOff
  rw [sendRepeating, sent]
  simp only [bne, same, Bool.not_true, Bool.false_eq_true, if_false, waited]
  exact ⟨_, rfl⟩

/-- Behind a wait that fails is no repetition. -/
theorem sendRepeating_of_stranded {transport : Transport σ τ} {query : Query}
    {state next : Connected σ τ} {response : Response} {log : List LogEntry} {world : σ}
    {failure : WaitFailure}
    (sent : endpoint.sendOnce transport query state = ⟨.ok response, log, next⟩)
    (putsOff : Reply.putsOff (.ok response) = true)
    (waited : transport.wait response.wait next.world = (.error failure, world))
    (left repetition : Nat) :
    ∃ log', endpoint.sendRepeating transport query repetition (left + 1) state =
      ⟨.error (.fault (.wait failure)), log', { next with world := world }⟩ := by
  have same : (response.status == throttledStatus) = true := putsOff
  rw [sendRepeating, sent]
  simp only [bne, same, Bool.not_true, Bool.false_eq_true, if_false, waited]
  exact ⟨_, rfl⟩

/-- A query is repeated as long as it is put off, repetitions are left and the waits before them do
not fail. -/
theorem sendRepeating_passes (returns : endpoint.tokens.Returns carrier.answering) (query : Query)
    (left repetition : Nat) (state : Connected (Outcomes × σ) τ) (past : List Event) :
    ∃ events,
      (endpoint.sendRepeating carrier.answering.recording query repetition left
        (state.beside past)).state.world.2 = past ++ events ∧
      Passes endpoint carrier query state.world.1 left (Event.calls events)
        (endpoint.sendRepeating carrier.answering.recording query repetition left
          (state.beside past)).result := by
  induction left generalizing repetition state past with
  | zero =>
      rcases sendOnce_answering returns query state past with
        ⟨token, events, log, next, calls, -, sent⟩
      rw [sendRepeating, sent]
      refine ⟨events, rfl, ?_⟩
      rw [calls]
      exact .once token rfl
  | succ left ih =>
      rcases sendOnce_answering returns query state past with
        ⟨token, events, log, next, calls, behind, sent⟩
      cases putsOff : (state.world.1 0).putsOff with
      | false =>
          rw [sendRepeating_of_stops sent putsOff]
          refine ⟨events, rfl, ?_⟩
          rw [calls]
          exact .once token (Outcomes.repetitions_of_not_putsOff putsOff (left + 1))
      | true =>
          rcases outcome : state.world.1 0 with failure | response
          · rw [outcome] at putsOff
            cases putsOff
          rw [outcome] at sent calls
          have throttled : Reply.putsOff (.ok response) = true := outcome ▸ putsOff
          rcases waited : carrier.wait response.wait next.world.2 with ⟨ended, world⟩
          have answering : carrier.answering.wait response.wait next.world =
              (ended, next.world.1, world) := by
            simp only [Transport.answering, waited]
          have recorded := Transport.recording_wait answering (past ++ events)
          cases ended with
          | error failure =>
              rcases sendRepeating_of_stranded sent throttled recorded left repetition with
                ⟨log', stranded⟩
              rw [stranded]
              refine ⟨events ++ [.waited response.wait (.error failure)],
                (List.append_assoc _ _ _), ?_⟩
              have failed : (carrier.wait response.wait next.world.2).1 = .error failure := by
                rw [waited]
              rw [Event.calls_append, calls]
              exact .cut token outcome putsOff failed
          | ok done =>
              -- The repetition starts behind the wait, with the outcomes that are left.
              let following : Connected (Outcomes × σ) τ := ⟨(next.world.1, world), next.cache⟩
              have remaining : following.world.1 = state.world.1.later := behind
              rcases ih (repetition + 1) following
                (past ++ events ++ [.waited response.wait (.ok ())]) with ⟨more, trail, passes⟩
              rw [remaining] at passes
              rcases sendRepeating_of_putsOff sent throttled recorded left repetition with
                ⟨log', repeated⟩
              rw [repeated]
              refine ⟨events ++ .waited response.wait (.ok ()) :: more, ?_, ?_⟩
              · have joined : past ++ (events ++ .waited response.wait (.ok ()) :: more) =
                    past ++ events ++ [.waited response.wait (.ok ())] ++ more := by
                  simp only [List.append_assoc, List.singleton_append]
                rw [joined]
                exact trail
              · rw [Event.calls_append, calls]
                exact passes.repeated token outcome putsOff

/-- How a query is repeated whose requests come to some outcomes, if so many repetitions are
allowed: its events, requests for tokens apart, are `calls`, and it comes to `result`. -/
structure Repeated (endpoint : Endpoint) (query : Query) (outcomes : Outcomes) (allowed : Nat)
    (calls : List Event) (result : Except ClientError Response) : Prop where
  /-- As many outcomes as put the query off at the front, but not more than are allowed, are
  repeated. -/
  count : ∀ k, outcomes.Leading k → outcomes.repetitions allowed = min k allowed
  always : (∀ i, (outcomes i).putsOff = true) → outcomes.repetitions allowed = allowed
  course : Course endpoint query (outcomes.first (outcomes.repetitions allowed + 1)) none calls
  queries : calls.filterMap Event.query? =
    List.replicate (outcomes.repetitions allowed + 1) query
  answered : ∀ response, outcomes (outcomes.repetitions allowed) = .ok response →
    result = .ok response
  unreached : ∀ failure, outcomes (outcomes.repetitions allowed) = .error failure →
    result = .error (.failure ⟨query.method.word ++ " " ++ query.path ++ " failed" ++ ": " ++
      failure.text, none, .null⟩)
  /-- An answer that puts the query off is let through only if no repetition is left. -/
  settled : ∀ response, result = .ok response → response.status = throttledStatus →
    outcomes.repetitions allowed = allowed

/-- How a query is cut short: after fewer repetitions than it would have, by the failure of the wait
that the last answer asks for. -/
structure CutShort (endpoint : Endpoint) (carrier : Transport σ τ) (query : Query)
    (outcomes : Outcomes) (allowed made : Nat) (failure : WaitFailure) (calls : List Event)
    (result : Except ClientError Response) : Prop where
  fewer : made < outcomes.repetitions allowed
  course : Course endpoint query (outcomes.first (made + 1)) (some failure) calls
  queries : calls.filterMap Event.query? = List.replicate (made + 1) query
  failed : ∃ response world, outcomes made = .ok response ∧
    (carrier.wait response.wait world).1 = .error failure
  result : result = .error (.fault (.wait failure))

theorem repeated_of_course {query : Query} {outcomes : Outcomes} {allowed : Nat}
    {calls : List Event}
    (course : Course endpoint query (outcomes.first (outcomes.repetitions allowed + 1)) none
      calls) :
    Repeated endpoint query outcomes allowed calls
      ((outcomes (outcomes.repetitions allowed)).mapError query.unreached) := by
  refine ⟨fun k leading => Outcomes.repetitions_eq_min leading, Outcomes.repetitions_eq_allowed,
    course, ?_, fun response same => ?_, fun failure same => ?_, fun response same putOff => ?_⟩
  · rw [course.queries, Outcomes.first, List.length_map, List.length_range]
  · rw [same]
    rfl
  · rw [same]
    rfl
  · apply Outcomes.repetitions_eq_of_putsOff
    rcases outcome : outcomes (outcomes.repetitions allowed) with failure | answer
    · rw [outcome] at same
      cases same
    · rw [outcome] at same
      cases same
      exact beq_iff_eq.mpr putOff

/-- **Repetitions.** Whatever the requests of a query come to, it is sent once and then again as
long as it is put off and repetitions are left: the same query each time, after the one wait that
the answer before asks for. It comes to the last of these outcomes, and a request that does not get
through is the last one. Only a wait that fails can cut it short, and then nothing comes behind that
wait. -/
theorem query_repeated (returns : endpoint.tokens.Returns carrier.answering) (query : Query)
    (state : Connected (Outcomes × σ) τ) :
    Repeated endpoint query state.world.1 endpoint.maxRetries.toNat
        (Event.calls (endpoint.trail carrier.answering query state))
        (endpoint.send carrier.answering query state).result ∨
      ∃ made failure, CutShort endpoint carrier query state.world.1 endpoint.maxRetries.toNat made
        failure (Event.calls (endpoint.trail carrier.answering query state))
        (endpoint.send carrier.answering query state).result := by
  rcases sendRepeating_passes returns query endpoint.maxRetries.toNat 1 state [] with
    ⟨events, trail, passes⟩
  have recorded := (endpoint.send_recording carrier.answering query state).2
  have kept : endpoint.trail carrier.answering query state = events := trail
  rw [← send, recorded] at passes
  rw [kept]
  simp only [Performed.under] at passes
  generalize (endpoint.send carrier.answering query state).result = result at passes ⊢
  cases passes with
  | settled course => exact Or.inl (repeated_of_course course)
  | @stranded made response world failure _ fewer last failed course =>
      refine Or.inr ⟨made, failure, fewer, course, ?_, ⟨response, world, last, failed⟩, rfl⟩
      rw [course.queries, Outcomes.first, List.length_map, List.length_range]

/-- An answer that grants a token. -/
def grant : Response :=
  ⟨200, none, [], "\x7b\"access_token\":\"t\"\x7d"⟩

/-- A transport on which every request is granted a token. -/
def granting : Transport Unit Binary64 where
  send _ state := (.ok grant, state)
  wait _ state := (.ok (), state)
  now _ := Binary64.zero false
  close state := state

theorem returns_granting (credentials : Credentials) :
    (TokenSource.fetched credentials).Returns granting.answering := by
  have read : Json.read grant.body.toList = .ok (.record [("access_token", .text "t")]) := by cbv
  have given : grant.token = .ok (.text "t", [("access_token", .text "t")]) := by
    rw [Response.token_eq_ok_iff, Response.json?, read]
    exact ⟨rfl, rfl⟩
  intro state
  unfold TokenSource.token Connected.acquire
  simp only
  split
  · exact ⟨_, rfl⟩
  · refine ⟨.text "t", ?_⟩
    have accepted : grant.isOk = true := rfl
    have sent : granting.answering.send credentials.request state.world =
        (.ok grant, state.world) := rfl
    unfold Connected.fetch
    rw [sent]
    simp only [accepted, if_true, Connected.keep, given]
    rfl

/-- An endpoint that fetches its tokens and repeats a query twice. -/
def fetching : Endpoint where
  environmentUrl := "https://org.example.com"
  tokens := .fetched
    { tenantId := "t", clientId := "c", clientSecret := "s", resource := "https://org.example.com" }
  maxRetries := 2

/-- One answer that asks for a wait of two seconds, and no answer from then on. -/
def putOffOnce : Outcomes :=
  fun i =>
    if i = 0 then .ok ⟨429, none, [("Retry-After", "2")], ""⟩ else .error ⟨"timed out"⟩

/-- A query that is put off once and then does not get through. -/
theorem query_repeated_once :
    fetching.tokens.Returns granting.answering ∧
      Repeated fetching (findQuery .table "new_t") putOffOnce 2
        (Event.calls (fetching.trail granting.answering (findQuery .table "new_t")
          ⟨(putOffOnce, ()), .empty⟩))
        (fetching.send granting.answering (findQuery .table "new_t")
          ⟨(putOffOnce, ()), .empty⟩).result := by
  have returns : fetching.tokens.Returns granting.answering := returns_granting _
  refine ⟨returns, ?_⟩
  rcases query_repeated returns (findQuery .table "new_t") ⟨(putOffOnce, ()), .empty⟩ with
    repeated | ⟨made, failure, cut⟩
  · exact repeated
  · rcases cut.failed with ⟨response, world, -, failed⟩
    cases failed

end Endpoint

end ErdDeploy
