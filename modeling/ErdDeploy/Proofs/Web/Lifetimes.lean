import ErdDeploy.Proofs.Web.Answers
import ErdDeploy.Proofs.Web.Trails
import Mathlib.Algebra.Order.Field.Rat

/-!
How long a fetched token is served.

The calls for a token that one cache answers make a history (`TokenHistory`): between two of them
anything may happen to the world, and during each of them the authority may answer anything. Of
the answers only those count that grant a token (`Grant`), with the time of their arrival and the
lifetime that they state.

What is kept is told by the grants alone: the token of the last one, and the expiry of the last one
whose lifetime can be made out. These two need not be one and the same grant, and where they are
not, a token may be served without a lifetime of its own (`not_served_in_time`). As long as the
clock does not run backwards, this takes a grant of null with a lifetime before it: a call is
served without a request exactly in the two ways of `Servable`, and any other call sends one
request (`token_served`).
-/

namespace ErdDeploy

/-! ## Exact times -/

/-- Times are exact numbers, and so is whatever is reckoned with them. -/
class Reckoning.IsExact (τ : Type) [Ring τ] [LinearOrder τ] [Reckoning τ] : Prop where
  start : (Reckoning.start : τ) = 0
  isBefore : ∀ t u : τ, Reckoning.isBefore t u = true ↔ t < u
  expiry : ∀ arrival lifetime : τ, Reckoning.expiry arrival lifetime = arrival + lifetime - 60
  ofSeconds : ∀ n : Int, (Reckoning.ofSeconds n : τ) = n

/-- The exact value of a floating point number that has one. -/
def Binary64.rational? : Binary64 → Option ℚ
  | .finite negative mantissa exponent =>
    let (num, den) := magnitude mantissa exponent
    some ((if negative then -(num : ℚ) else num) / den)
  | _ => none

/-- A stated lifetime as an exact number. What is endless, or no number at all, is none. -/
def exactLifetime : Value → Except Fault ℚ
  | .int n => .ok n
  | .bool b => .ok (if b then 1 else 0)
  | .float x => (x.rational?).elim (.error .lifetimeNotNumber) .ok
  | .text s =>
    ((DecimalText.read? s.toList).bind Binary64.rational?).elim (.error .lifetimeNotNumeric) .ok
  | _ => .error .lifetimeNotNumber

/-- Rational numbers as times. -/
instance : Reckoning ℚ where
  start := 0
  isBefore t u := decide (t < u)
  expiry arrival lifetime := arrival + lifetime - expiryMargin
  ofSeconds n := n
  lifetime := exactLifetime

instance : Reckoning.IsExact ℚ where
  start := rfl
  isBefore _ _ := decide_eq_true_iff
  expiry _ _ := rfl
  ofSeconds _ := rfl

/-! ## Grants -/

/-- A token that an answer grants. -/
structure Grant (τ : Type) where
  token : Value
  arrival : τ
  /-- How long the token is said to last, if that can be made out. -/
  lifetime : Except Fault τ

section

variable {τ : Type} [Ring τ]

/-- The time from which on a granted token is not served any more. -/
def Grant.expiry? (grant : Grant τ) : Option τ :=
  match grant.lifetime with
  | .ok lifetime => some (grant.arrival + lifetime - 60)
  | .error _ => none

/-- The last of some grants whose lifetime can be made out. -/
def lastDated? (grants : List (Grant τ)) : Option (Grant τ) :=
  (grants.filter fun grant => grant.lifetime.isOk).getLast?

/-- The token of the last grant. -/
def keptToken (grants : List (Grant τ)) : Value :=
  (grants.getLast?.map Grant.token).getD .null

/-- The expiry of the last grant that has one. -/
def keptExpiry (grants : List (Grant τ)) : τ :=
  ((lastDated? grants).bind Grant.expiry?).getD 0

section

variable {grants : List (Grant τ)} {grant : Grant τ} {lifetime : τ} {fault : Fault}

omit [Ring τ]

theorem lastDated?_concat_of_ok (stated : grant.lifetime = .ok lifetime) :
    lastDated? (grants ++ [grant]) = some grant := by
  simp [lastDated?, stated, Except.isOk, Except.toBool]

theorem lastDated?_concat_of_error (unstated : grant.lifetime = .error fault) :
    lastDated? (grants ++ [grant]) = lastDated? grants := by
  simp [lastDated?, unstated, Except.isOk, Except.toBool]

theorem lastDated?_of_getLast? (isLast : grants.getLast? = some grant)
    (stated : grant.lifetime = .ok lifetime) : lastDated? grants = some grant := by
  obtain ⟨earlier, rfl⟩ := List.getLast?_eq_some_iff.mp isLast
  exact lastDated?_concat_of_ok stated

theorem lifetime_of_lastDated? (isDated : lastDated? grants = some grant) :
    ∃ lifetime, grant.lifetime = .ok lifetime := by
  have dated := (List.mem_filter.mp (List.mem_of_getLast? isDated)).2
  rcases stated : grant.lifetime with fault | lifetime
  · simp [stated, Except.isOk, Except.toBool] at dated
  · exact ⟨lifetime, rfl⟩

theorem keptToken_of_getLast? (isLast : grants.getLast? = some grant) :
    keptToken grants = grant.token := by
  simp [keptToken, isLast]

end

section

variable {grants : List (Grant τ)} {grant : Grant τ}

theorem keptExpiry_of_lastDated? {lifetime : τ} (isDated : lastDated? grants = some grant)
    (stated : grant.lifetime = .ok lifetime) :
    keptExpiry grants = grant.arrival + lifetime - 60 := by
  simp [keptExpiry, isDated, Grant.expiry?, stated]

theorem keptExpiry_concat :
    keptExpiry (grants ++ [grant]) = grant.expiry?.getD (keptExpiry grants) := by
  rcases stated : grant.lifetime with fault | lifetime
  · simp [keptExpiry, lastDated?_concat_of_error stated, Grant.expiry?, stated]
  · simp [keptExpiry, lastDated?_concat_of_ok stated, Grant.expiry?, stated]

end

variable [Reckoning τ]

/-- The lifetime that the members of an answer state. Where they state none, it is an hour. -/
def statedLifetime (members : List (String × Value)) : Except Fault τ :=
  match members.lookup "expires_in" with
  | some stated => Reckoning.lifetime stated
  | none => .ok 3600

/-- What an answer grants: it is no refusal, and its body is a record with a token. -/
def Response.grant? (response : Response) (arrival : τ) : Option (Grant τ) :=
  if response.isOk then
    match response.json? with
    | .ok (some (.record members)) =>
      (members.lookup "access_token").map fun token => ⟨token, arrival, statedLifetime members⟩
    | _ => none
  else none

/-- What a reply grants: an answer is what grants anything. -/
def Reply.grant? (reply : Reply) (arrival : τ) : Option (Grant τ) :=
  match reply with
  | .ok response => response.grant? arrival
  | .error _ => none

theorem Response.grant?_of_isOk {response : Response} (accepted : response.isOk = true)
    (arrival : τ) :
    response.grant? arrival =
      match response.token with
      | .ok (token, members) => some ⟨token, arrival, statedLifetime members⟩
      | .error _ => none := by
  rw [grant?, if_pos accepted, token]
  rcases response.json? with fault | _ | body
  · rfl
  · rfl
  · cases body with
    | record members => rcases named : members.lookup "access_token" with _ | token <;> simp [named]
    | _ => rfl

end

/-! ## What is kept -/

section

variable {τ : Type} [Ring τ] [LinearOrder τ]

/-- The cache after a grant: a lifetime that cannot be made out leaves the expiry as it was. -/
def TokenCache.after (cache : TokenCache τ) (grant : Grant τ) : TokenCache τ :=
  ⟨grant.token, grant.expiry?.getD cache.expiresAt⟩

/-- What some grants leave in a cache, as of a time. -/
structure TokenCache.KeptFrom (cache : TokenCache τ) (grants : List (Grant τ)) (now : τ) :
    Prop where
  token : cache.token = keptToken grants
  expiresAt : cache.expiresAt = keptExpiry grants
  /-- If the lifetime of the last grant cannot be made out, then the expiry that is kept is over,
  or its own token was null. -/
  undated : ∀ last, grants.getLast? = some last → ∀ fault, last.lifetime = .error fault →
    cache.expiresAt ≤ now ∨ ∃ dated, lastDated? grants = some dated ∧ dated.token = .null

namespace TokenCache.KeptFrom

variable {cache : TokenCache τ} {grants : List (Grant τ)} {grant : Grant τ} {now later : τ}

theorem until_later (kept : cache.KeptFrom grants now) (forward : now ≤ later) :
    cache.KeptFrom grants later :=
  ⟨kept.token, kept.expiresAt, fun last isLast fault unstated =>
    (kept.undated last isLast fault unstated).imp_left (le_trans · forward)⟩

/-- If no token is kept, then the expiry that is kept is over, or its own token was null. -/
theorem over_of_null (kept : cache.KeptFrom grants now) (started : 0 ≤ now)
    (null : cache.token = .null) :
    cache.expiresAt ≤ now ∨ ∃ dated, lastDated? grants = some dated ∧ dated.token = .null := by
  rcases isLast : grants.getLast? with _ | last
  · obtain rfl := List.getLast?_eq_none_iff.mp isLast
    exact Or.inl (kept.expiresAt.trans_le started)
  · rcases stated : last.lifetime with fault | lifetime
    · exact kept.undated last isLast fault stated
    · have same : cache.token = last.token := kept.token.trans (keptToken_of_getLast? isLast)
      exact Or.inr ⟨last, lastDated?_of_getLast? isLast stated, same.symm.trans null⟩

/-- A grant that comes when nothing may be served replaces what is kept. -/
theorem after (kept : cache.KeptFrom grants now) (started : 0 ≤ now)
    (stale : cache.token = .null ∨ cache.expiresAt ≤ now) :
    (cache.after grant).KeptFrom (grants ++ [grant]) now := by
  refine ⟨by simp [TokenCache.after, keptToken], ?_, ?_⟩
  · rw [keptExpiry_concat, ← kept.expiresAt]
    rfl
  · intro last isLast fault unstated
    obtain rfl : grant = last := by simpa using isLast
    have same : (cache.after grant).expiresAt = cache.expiresAt := by
      simp [TokenCache.after, Grant.expiry?, unstated]
    rw [lastDated?_concat_of_error unstated, same]
    -- The request was sent because no token was kept, or because the expiry was over.
    rcases stale with null | late
    · exact kept.over_of_null started null
    · exact Or.inl late

end TokenCache.KeptFrom

end

/-! ## Histories -/

/-- A call for a token. -/
structure TokenCall (τ : Type) where
  /-- When the token was asked for. -/
  asked : τ
  /-- What was sent, with the replies. -/
  sent : List Event
  /-- The time at the end of the call, which is also that at which its answer arrived. -/
  ended : τ
  result : Except ClientError Value

section

variable {σ τ : Type} [Ring τ] [LinearOrder τ] [Reckoning τ]

/-- Ask for a token: the call, and what it leaves behind. -/
def Connected.callToken (transport : Transport σ τ) (credentials : Credentials)
    (state : Connected σ τ) : TokenCall τ × Connected σ τ :=
  let done := acquire transport.recording credentials (state.beside [])
  (⟨transport.now state.world, done.state.world.2, transport.now done.state.world.1, done.result⟩,
    ⟨done.state.world.1, done.state.cache⟩)

/-- The calls for a token that one cache answers. Before each of them the world may have become
any other. -/
inductive TokenHistory (transport : Transport σ τ) (credentials : Credentials) :
    List (TokenCall τ) → Connected σ τ → Prop
  | start (world : σ) : TokenHistory transport credentials [] ⟨world, .empty⟩
  | call {calls : List (TokenCall τ)} {state : Connected σ τ} (world : σ) :
    TokenHistory transport credentials calls state →
    TokenHistory transport credentials
      (calls ++ [(Connected.callToken transport credentials ⟨world, state.cache⟩).1])
      (Connected.callToken transport credentials ⟨world, state.cache⟩).2

/-- What a call was granted. -/
def TokenCall.grant? (call : TokenCall τ) : Option (Grant τ) :=
  match call.sent with
  | [.sent _ reply] => Reply.grant? reply call.ended
  | _ => none

/-- What some calls were granted. -/
def grantsOf (calls : List (TokenCall τ)) : List (Grant τ) :=
  calls.filterMap TokenCall.grant?

/-- The times that the clock told during some calls. -/
def timesOf (calls : List (TokenCall τ)) : List τ :=
  calls.flatMap fun call => [call.asked, call.ended]

omit [LinearOrder τ] in
theorem grantsOf_concat (calls : List (TokenCall τ)) (call : TokenCall τ) :
    grantsOf (calls ++ [call]) = grantsOf calls ++ call.grant?.toList := by
  rw [grantsOf, List.filterMap_append, grantsOf]
  rcases granted : call.grant? with _ | grant <;> simp [granted]

/-- The clock did not run backwards, nor did it begin below zero. -/
def Forward (calls : List (TokenCall τ)) : Prop :=
  (0 :: timesOf calls).Pairwise (· ≤ ·)

/-! ## One call -/

/-- How a cache answers a call, and what becomes of it. -/
inductive Answered (credentials : Credentials) (cache : TokenCache τ) :
    TokenCall τ → TokenCache τ → Prop
  | served (t : τ) : cache.token ≠ .null → t < cache.expiresAt →
      Answered credentials cache ⟨t, [], t, .ok cache.token⟩ cache
  | fetched (call : TokenCall τ) (reply : Reply) :
      cache.token = .null ∨ cache.expiresAt ≤ call.asked →
      call.sent = [.sent credentials.request reply] →
      Answered credentials cache call ((call.grant?.map cache.after).getD cache)

/-- A call leaves in the cache what the grants leave in it, the new one included. -/
theorem TokenCache.KeptFrom.step {credentials : Credentials} {cache cache' : TokenCache τ}
    {grants : List (Grant τ)} {call : TokenCall τ}
    (kept : cache.KeptFrom grants call.asked) (started : 0 ≤ call.asked)
    (forward : call.asked ≤ call.ended) (answered : Answered credentials cache call cache') :
    cache'.KeptFrom (grants ++ call.grant?.toList) call.ended := by
  cases answered with
  | served t present early => simpa [TokenCall.grant?] using kept
  | fetched _ reply stale sent =>
      have still := kept.until_later forward
      rcases call.grant? with _ | grant
      · simpa using still
      · exact still.after (started.trans forward) (stale.imp_right (le_trans · forward))

variable [Reckoning.IsExact τ]

theorem TokenCache.fresh?_eq_some_iff {cache : TokenCache τ} {now : τ} {token : Value} :
    cache.fresh? now = some token ↔
      cache.token = token ∧ token ≠ .null ∧ now < cache.expiresAt := by
  obtain ⟨kept, expiresAt⟩ := cache
  have before := Reckoning.IsExact.isBefore now expiresAt
  cases kept <;> simp [TokenCache.fresh?, before, and_comm] <;> rintro rfl <;> simp

theorem TokenCache.fresh?_eq_none_iff {cache : TokenCache τ} {now : τ} :
    cache.fresh? now = none ↔ cache.token = .null ∨ cache.expiresAt ≤ now := by
  rw [Option.eq_none_iff_forall_ne_some]
  simp only [ne_eq, fresh?_eq_some_iff, not_and, not_lt]
  constructor
  · intro stale
    by_cases null : cache.token = .null
    · exact Or.inl null
    · exact Or.inr (stale _ rfl null)
  · rintro (null | late) token same present
    · exact absurd (same.symm.trans null) present
    · exact late

/-- An accepted answer that grants a token puts it into the cache, and any other leaves the cache
as it was. -/
theorem Connected.keep_state (transport : Transport σ τ) {response : Response}
    (accepted : response.isOk = true) (state : Connected σ τ) :
    (keep transport response state).state =
      ⟨state.world, ((response.grant? (transport.now state.world)).map
        state.cache.after).getD state.cache⟩ := by
  have granted := response.grant?_of_isOk accepted (transport.now state.world)
  rcases read : response.token with error | ⟨token, members⟩
  · simp only [read] at granted
    simp [keep, read, granted]
  · simp only [read] at granted
    rcases stated : members.lookup "expires_in" with _ | value
    · simp [keep, read, granted, statedLifetime, stated, TokenCache.after, Grant.expiry?,
        Reckoning.IsExact.expiry, Reckoning.IsExact.ofSeconds, defaultLifetime]
    · rcases reckoned : (Reckoning.lifetime value : Except Fault τ) with fault | lifetime
      · simp [keep, read, granted, statedLifetime, stated, reckoned, TokenCache.after,
          Grant.expiry?]
      · simp [keep, read, granted, statedLifetime, stated, reckoned, TokenCache.after,
          Grant.expiry?, Reckoning.IsExact.expiry]

/-- A reply that grants a token puts it into the cache, and any other leaves the cache as it
was. -/
theorem Connected.fetch_state {transport : Transport σ τ} {credentials : Credentials}
    {state : Connected σ τ} {reply : Reply} {world : σ}
    (sent : transport.send credentials.request state.world = (reply, world)) :
    (fetch transport credentials state).state =
      ⟨world, ((reply.grant? (transport.now world)).map state.cache.after).getD state.cache⟩ := by
  simp only [fetch, sent]
  cases reply with
  | error failure => rfl
  | ok response =>
      cases accepted : response.isOk with
      | false => simp [Reply.grant?, Response.grant?, accepted]
      | true =>
          simp only [accepted, if_true]
          exact keep_state transport accepted _

/-- A call that finds nothing to serve sends one request, and keeps what the reply grants. -/
theorem Connected.callToken_of_stale {transport : Transport σ τ} {credentials : Credentials}
    {state : Connected σ τ} {reply : Reply} {world : σ}
    (stale : state.cache.fresh? (transport.now state.world) = none)
    (sent : transport.send credentials.request state.world = (reply, world)) :
    ∃ result, callToken transport credentials state =
      (⟨transport.now state.world, [.sent credentials.request reply], transport.now world, result⟩,
        ⟨world,
          ((reply.grant? (transport.now world)).map state.cache.after).getD state.cache⟩) := by
  have asked : transport.recording.now (state.beside []).world = transport.now state.world := rfl
  have cache : (state.beside []).cache = state.cache := rfl
  have fetched := fetch_state (Transport.recording_send sent [])
  refine ⟨(fetch transport.recording credentials (state.beside [])).result, ?_⟩
  simp only [callToken, acquire, asked, cache, stale, fetched, List.nil_append]
  rfl

/-- A call is answered from the cache, or else by one request to the authority. -/
theorem Connected.callToken_answered (transport : Transport σ τ) (credentials : Credentials)
    (state : Connected σ τ) :
    Answered credentials state.cache (callToken transport credentials state).1
      (callToken transport credentials state).2.cache := by
  rcases cached : state.cache.fresh? (transport.now state.world) with _ | token
  · rcases sent : transport.send credentials.request state.world with ⟨reply, world⟩
    have stale := TokenCache.fresh?_eq_none_iff.mp cached
    obtain ⟨result, called⟩ := callToken_of_stale cached sent
    rw [called]
    exact .fetched _ reply stale rfl
  · have asked : transport.recording.now (state.beside []).world = transport.now state.world := rfl
    have cache : (state.beside []).cache = state.cache := rfl
    obtain ⟨rfl, present, early⟩ := TokenCache.fresh?_eq_some_iff.mp cached
    simp only [callToken, acquire, asked, cache, cached]
    exact .served _ present early

end

/-! ## Runs -/

theorem forward_append {τ : Type} [Ring τ] [LinearOrder τ] {before after : List (TokenCall τ)}
    {call : TokenCall τ} (forward : Forward (before ++ call :: after)) :
    Forward before ∧ (∀ t ∈ 0 :: timesOf before, t ≤ call.asked) ∧ call.asked ≤ call.ended := by
  have split : 0 :: timesOf (before ++ call :: after) =
      (0 :: timesOf before) ++ call.asked :: call.ended :: timesOf after := by
    simp [timesOf]
  rw [Forward, split, List.pairwise_append] at forward
  obtain ⟨earlier, later, across⟩ := forward
  exact ⟨earlier, fun t mem => across t mem _ List.mem_cons_self,
    (List.pairwise_cons.mp later).1 _ List.mem_cons_self⟩

namespace TokenHistory

variable {σ τ : Type} [Reckoning τ] {transport : Transport σ τ} {credentials : Credentials}
  {state : Connected σ τ}

/-- Every call of a history is made with the cache that the calls before it leave. -/
theorem split {before after : List (TokenCall τ)} {call : TokenCall τ}
    (history : TokenHistory transport credentials (before ++ call :: after) state) :
    ∃ (earlier : Connected σ τ) (world : σ), TokenHistory transport credentials before earlier ∧
      (Connected.callToken transport credentials ⟨world, earlier.cache⟩).1 = call := by
  generalize whole : before ++ call :: after = calls at history
  induction history generalizing after with
  | start world => simp at whole
  | @call calls state world history ih =>
      -- The call is the last of the history, or one of those before.
      rcases List.eq_nil_or_concat after with rfl | ⟨between, last, rfl⟩
      · obtain ⟨rfl, same⟩ := List.append_inj' whole rfl
        exact ⟨state, world, history, (List.singleton_inj.mp same).symm⟩
      · rw [List.concat_eq_append, ← List.cons_append, ← List.append_assoc] at whole
        exact ih (List.append_inj' whole rfl).1

/-- As long as the clock does not run backwards, a cache holds what the grants left in it. -/
theorem kept [Ring τ] [LinearOrder τ] [Reckoning.IsExact τ] {calls : List (TokenCall τ)}
    (history : TokenHistory transport credentials calls state) (forward : Forward calls) {now : τ}
    (passed : ∀ t ∈ 0 :: timesOf calls, t ≤ now) :
    state.cache.KeptFrom (grantsOf calls) now := by
  induction history generalizing now with
  | start world => exact ⟨rfl, Reckoning.IsExact.start, by simp [grantsOf]⟩
  | @call calls state world history ih =>
      have answered := Connected.callToken_answered transport credentials ⟨world, state.cache⟩
      obtain ⟨earlier, asked, onward⟩ := forward_append forward
      have kept := (ih earlier asked).step (asked 0 List.mem_cons_self) onward answered
      rw [grantsOf_concat]
      exact kept.until_later (passed _ (by simp [timesOf]))

end TokenHistory

/-! ## Serving -/

section

variable {τ : Type} [Ring τ] [LinearOrder τ]

/-- The tokens that are served at a time without a request, after some grants. -/
inductive Servable (grants : List (Grant τ)) (t : τ) : Value → Prop
  /-- The token of the last grant, until a minute before its lifetime ends. -/
  | inTime {grant : Grant τ} {lifetime : τ} : grants.getLast? = some grant →
      grant.token ≠ .null → grant.lifetime = .ok lifetime →
      t < grant.arrival + lifetime - 60 → Servable grants t grant.token
  /-- The token of the last grant, whose own lifetime cannot be made out, as long as a grant of
  null before it is said to last. -/
  | mispaired {grant dated : Grant τ} {fault : Fault} {lifetime : τ} :
      grants.getLast? = some grant → grant.token ≠ .null → grant.lifetime = .error fault →
      lastDated? grants = some dated → dated.token = .null → dated.lifetime = .ok lifetime →
      t < dated.arrival + lifetime - 60 → Servable grants t grant.token

/-- What a cache serves is told by the grants. -/
theorem TokenCache.KeptFrom.servable_iff {cache : TokenCache τ} {grants : List (Grant τ)} {now : τ}
    (kept : cache.KeptFrom grants now) {token : Value} :
    Servable grants now token ↔ cache.token = token ∧ token ≠ .null ∧ now < cache.expiresAt := by
  rw [kept.token, kept.expiresAt]
  constructor
  · intro servable
    cases servable with
    | inTime isLast present stated early =>
        rw [keptExpiry_of_lastDated? (lastDated?_of_getLast? isLast stated) stated]
        exact ⟨keptToken_of_getLast? isLast, present, early⟩
    | mispaired isLast present unstated isDated null stated early =>
        rw [keptExpiry_of_lastDated? isDated stated]
        exact ⟨keptToken_of_getLast? isLast, present, early⟩
  · rintro ⟨rfl, present, early⟩
    rcases isLast : grants.getLast? with _ | last
    · exact absurd (by simp [keptToken, isLast]) present
    · rw [keptToken_of_getLast? isLast] at present ⊢
      rcases stated : last.lifetime with fault | lifetime
      -- Without a lifetime of its own, the token is served by the expiry of a grant before it.
      · rcases kept.undated last isLast fault stated with late | ⟨dated, isDated, null⟩
        · exact absurd (kept.expiresAt.symm.trans_le late) early.not_ge
        · obtain ⟨lifetime, stated'⟩ := lifetime_of_lastDated? isDated
          rw [keptExpiry_of_lastDated? isDated stated'] at early
          exact .mispaired isLast present stated isDated null stated' early
      · rw [keptExpiry_of_lastDated? (lastDated?_of_getLast? isLast stated) stated] at early
        exact .inTime isLast present stated early

/-- How a call is answered is told by the grants before it. -/
theorem TokenCache.KeptFrom.answer [Reckoning τ] {credentials : Credentials}
    {cache cache' : TokenCache τ} {grants : List (Grant τ)} {call : TokenCall τ}
    (kept : cache.KeptFrom grants call.asked) (answered : Answered credentials cache call cache') :
    (∃ token, Servable grants call.asked token ∧ call.sent = [] ∧ call.result = .ok token) ∨
      (∀ token, ¬ Servable grants call.asked token) ∧
        ∃ reply, call.sent = [.sent credentials.request reply] := by
  cases answered with
  | served t present early =>
      exact Or.inl ⟨_, kept.servable_iff.mpr ⟨rfl, present, early⟩, rfl, rfl⟩
  | fetched _ reply stale sent =>
      refine Or.inr ⟨fun token servable => ?_, reply, sent⟩
      obtain ⟨rfl, present, early⟩ := kept.servable_iff.mp servable
      exact stale.elim present early.not_ge

end

namespace Mispairing

/-- The application that asks. -/
def credentials : Credentials where
  tenantId := "tenant"
  clientId := "client"
  clientSecret := "secret"
  resource := "https://example.org"

/-- An answer that grants null, and so for an hour. -/
def nullGrant : Response :=
  ⟨200, none, [], "\x7b\"access_token\":null\x7d"⟩

/-- An answer that grants a token with a lifetime that is no number. -/
def undatedGrant : Response :=
  ⟨200, none, [], "\x7b\"access_token\":\"B\",\"expires_in\":\"abc\"\x7d"⟩

theorem nullGrant_grant? (arrival : ℚ) :
    nullGrant.grant? arrival = some ⟨.null, arrival, .ok 3600⟩ := by
  have read : Json.read nullGrant.body.toList = .ok (.record [("access_token", .null)]) := by cbv
  have accepted : nullGrant.isOk = true := rfl
  simp [Response.grant?, Response.json?, read, accepted, statedLifetime, List.lookup_cons]

theorem undatedGrant_grant? (arrival : ℚ) :
    undatedGrant.grant? arrival = some ⟨.text "B", arrival, .error .lifetimeNotNumeric⟩ := by
  have read : Json.read undatedGrant.body.toList =
      .ok (.record [("access_token", .text "B"), ("expires_in", .text "abc")]) := by cbv
  have accepted : undatedGrant.isOk = true := rfl
  have number : DecimalText.read? ['a', 'b', 'c'] = none := by decide +kernel
  simp [Response.grant?, Response.json?, read, accepted, statedLifetime, List.lookup_cons,
    Reckoning.lifetime, exactLifetime, number]

/-- A call that gets a reply, if it asks for one. -/
def ask (replies : List Reply) (clock : ℚ) (cache : TokenCache ℚ) :
    TokenCall ℚ × Connected (Script ℚ) ℚ :=
  Connected.callToken Script.transport credentials ⟨.ofReplies replies clock, cache⟩

/-- A call that gets a grant when no token is kept. -/
theorem ask_granted {response : Response} {clock : ℚ} {cache : TokenCache ℚ} {grant : Grant ℚ}
    (nothing : cache.token = .null) (granted : response.grant? clock = some grant) :
    (ask [.ok response] clock cache).1.grant? = some grant ∧
      (ask [.ok response] clock cache).2.cache = cache.after grant := by
  let state : Connected (Script ℚ) ℚ := ⟨.ofReplies [.ok response] clock, cache⟩
  have stale : state.cache.fresh? (Script.transport.now state.world) = none := by
    simp only [state, TokenCache.fresh?, nothing]
  have sent : Script.transport.send credentials.request state.world =
      (.ok response, ⟨[], [credentials.request], [], clock, 0⟩) := rfl
  have kept : Reply.grant? (.ok response) clock = some grant := granted
  obtain ⟨result, called⟩ := Connected.callToken_of_stale stale sent
  have asked : ask [.ok response] clock cache =
      Connected.callToken Script.transport credentials state := rfl
  rw [asked, called]
  exact ⟨kept, by simp only [Script.transport, kept, Option.map_some, Option.getD_some, state]⟩

/-- At first null is granted. -/
def first : TokenCall ℚ × Connected (Script ℚ) ℚ :=
  ask [.ok nullGrant] 0 .empty

/-- A second later, a token is granted that does not say how long it lasts. -/
def second : TokenCall ℚ × Connected (Script ℚ) ℚ :=
  ask [.ok undatedGrant] 1 first.2.cache

/-- Yet another second later, no answer is left. -/
def third : TokenCall ℚ × Connected (Script ℚ) ℚ :=
  ask [] 2 second.2.cache

theorem past : TokenHistory Script.transport credentials [first.1, second.1] second.2 :=
  have start := TokenHistory.start (Script.ofReplies [] 0)
  have once : TokenHistory Script.transport credentials [first.1] first.2 := start.call _
  once.call _

theorem history :
    TokenHistory Script.transport credentials ([first.1, second.1] ++ third.1 :: []) third.2 :=
  past.call _

theorem forward : Forward ([first.1, second.1] ++ third.1 :: []) := by
  have times : timesOf ([first.1, second.1] ++ third.1 :: []) = [0, 0, 1, 1, 2, 2] := by
    decide +kernel
  rw [Forward, times]
  decide +kernel

theorem grants :
    grantsOf [first.1, second.1] =
      [⟨.null, 0, .ok 3600⟩, ⟨.text "B", 1, .error .lifetimeNotNumeric⟩] := by
  have empty : (TokenCache.empty : TokenCache ℚ).token = .null := rfl
  obtain ⟨granted, cache⟩ := ask_granted empty (nullGrant_grant? 0)
  have nothing : first.2.cache.token = .null := by rw [first, cache]; rfl
  have once : first.1.grant? = some ⟨.null, 0, .ok 3600⟩ := granted
  have twice : second.1.grant? = some ⟨.text "B", 1, .error .lifetimeNotNumeric⟩ :=
    (ask_granted nothing (undatedGrant_grant? 1)).1
  simp only [grantsOf, List.filterMap_cons, once, twice, List.filterMap_nil]

theorem servable : Servable (grantsOf [first.1, second.1]) third.1.asked (.text "B") := by
  have asked : third.1.asked = 2 := rfl
  have early : (2 : ℚ) < 0 + 3600 - 60 := by decide +kernel
  rw [grants, asked]
  let null : Grant ℚ := ⟨.null, 0, .ok 3600⟩
  let undated : Grant ℚ := ⟨.text "B", 1, .error .lifetimeNotNumeric⟩
  have isLast : [null, undated].getLast? = some undated := rfl
  have isDated : lastDated? [null, undated] = some null :=
    (lastDated?_concat_of_error rfl).trans (@lastDated?_concat_of_ok ℚ [] null 3600 rfl)
  have present : undated.token ≠ .null := by simp [undated]
  have served : Servable [null, undated] 2 undated.token :=
    .mispaired isLast present rfl isDated rfl rfl early
  exact served

theorem unsent : third.1.sent = [] :=
  List.isEmpty_iff.mp (by decide +kernel)

end Mispairing

/-- A call is served without a request exactly in the two ways of `Servable`, and any other call
sends one request. -/
theorem token_served {σ τ : Type} [Ring τ] [LinearOrder τ] [Reckoning τ] [Reckoning.IsExact τ]
    {transport : Transport σ τ} {credentials : Credentials} {before after : List (TokenCall τ)}
    {call : TokenCall τ} {state : Connected σ τ}
    (history : TokenHistory transport credentials (before ++ call :: after) state)
    (forward : Forward (before ++ call :: after)) :
    (∃ token, Servable (grantsOf before) call.asked token ∧
        call.sent = [] ∧ call.result = .ok token) ∨
      (∀ token, ¬ Servable (grantsOf before) call.asked token) ∧
        ∃ reply, call.sent = [.sent credentials.request reply] := by
  obtain ⟨earlier, world, past, rfl⟩ := history.split
  obtain ⟨onward, passed, -⟩ := forward_append forward
  exact (past.kept onward passed).answer
    (Connected.callToken_answered transport credentials ⟨world, earlier.cache⟩)

/-- The third call of a mispairing gets the token whose lifetime could not be made out. -/
theorem token_served_mispaired :
    ∃ token, Servable (grantsOf [Mispairing.first.1, Mispairing.second.1])
        Mispairing.third.1.asked token ∧
      Mispairing.third.1.sent = [] ∧ Mispairing.third.1.result = .ok token := by
  rcases token_served Mispairing.history Mispairing.forward with served | ⟨never, -⟩
  · exact served
  · exact absurd Mispairing.servable (never _)

/-- A token that is served without a request need not be in its own lifetime. -/
theorem not_served_in_time :
    ¬ ∀ (transport : Transport (Script ℚ) ℚ) (credentials : Credentials)
        (before after : List (TokenCall ℚ)) (call : TokenCall ℚ) (state : Connected (Script ℚ) ℚ),
      TokenHistory transport credentials (before ++ call :: after) state →
      Forward (before ++ call :: after) → call.sent = [] →
      ∃ grant lifetime, (grantsOf before).getLast? = some grant ∧
        call.result = .ok grant.token ∧ grant.lifetime = .ok lifetime ∧
        call.asked < grant.arrival + lifetime - 60 := by
  intro claim
  obtain ⟨grant, lifetime, isLast, -, stated, -⟩ :=
    claim Script.transport Mispairing.credentials [Mispairing.first.1, Mispairing.second.1] []
      Mispairing.third.1 Mispairing.third.2 Mispairing.history Mispairing.forward
      Mispairing.unsent
  rw [Mispairing.grants, List.getLast?_cons_cons, List.getLast?_singleton] at isLast
  obtain rfl := Option.some.inj isLast
  cases stated

end ErdDeploy
