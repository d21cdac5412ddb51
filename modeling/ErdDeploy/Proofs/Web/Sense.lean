import ErdDeploy.Proofs.Deployment.Reports
import ErdDeploy.Proofs.Web.Answers
import ErdDeploy.Proofs.Web.Trails

/-!
Answers that make no sense, and waits that fail.

A run relies on a client that gives a text or nothing for a lookup, a text for a creation, or
else a failure that can be reported (`Client.Answers`). An endpoint does not always keep to
this, as `Endpoint.not_answers` shows with one answer to a creation. The answers that lead
astray are few: those of an authority that are collected in `Response.SenselessToken`, those
of the interface in `Response.SenselessFind` and `Response.SenselessCreation`, and those that
name an object by something that is no text (`Response.Misnames`). Besides, a server that puts a
query off may ask for a wait that fails.

Whatever the transport answers, and however often it puts a query off, only what comes last
counts: a call ends in a fault exactly if the last answer makes no sense or the last thing is a
wait that fails, and gives an identifier that is no text exactly if the last answer does
(`Endpoint.led_astray_iff`).
-/

namespace ErdDeploy

/-! ## Lifetimes -/

/-- The values that tell no lifetime, and why. -/
inductive Value.NoLifetime : Value → Fault → Prop
  | tooLarge {n : Int} {negative : Bool} : Binary64.ofInt n = .infinity negative →
      NoLifetime (.int n) .lifetimeTooLarge
  | notNumeric {s : String} : DecimalText.read? s.toList = none →
      NoLifetime (.text s) .lifetimeNotNumeric
  | null : NoLifetime .null .lifetimeNotNumber
  | list (items : List Value) : NoLifetime (.list items) .lifetimeNotNumber
  | record (members : List (String × Value)) : NoLifetime (.record members) .lifetimeNotNumber
  | moment (written : String) : NoLifetime (.moment written) .lifetimeNotNumber

theorem Binary64.ofLifetime_eq_error_iff (value : Value) (fault : Fault) :
    Binary64.ofLifetime value = .error fault ↔ value.NoLifetime fault := by
  constructor
  · intro failed
    cases value with
    | null => cases failed; exact .null
    | bool b => cases failed
    | float x => cases failed
    | list items => cases failed; exact .list items
    | record members => cases failed; exact .record members
    | moment written => cases failed; exact .moment written
    | int n =>
        cases rounded : Binary64.ofInt n with
        | infinity negative =>
            simp only [Binary64.ofLifetime, rounded] at failed
            cases failed
            exact .tooLarge rounded
        | nan => simp only [Binary64.ofLifetime, rounded, reduceCtorEq] at failed
        | finite => simp only [Binary64.ofLifetime, rounded, reduceCtorEq] at failed
    | text s =>
        cases read : DecimalText.read? s.toList with
        | some x => simp only [Binary64.ofLifetime, read, reduceCtorEq] at failed
        | none =>
            simp only [Binary64.ofLifetime, read] at failed
            cases failed
            exact .notNumeric read
  · intro none
    cases none with
    | tooLarge infinite => simp only [Binary64.ofLifetime, infinite]
    | notNumeric unread => simp only [Binary64.ofLifetime, unread]
    | null | list | record | moment => rfl

/-! ## Senseless answers -/

namespace Response

/-- The answers of an authority that make no sense, and why. -/
inductive SenselessToken (response : Response) : Fault → Prop
  | tooDeep : response.TooDeep → SenselessToken response .bodyTooDeep
  | refusal {body : Value} : response.isOk = false → response.json? = .ok (some body) →
      (∀ members, body ≠ .record members) → SenselessToken response .tokenRefusalNotRecord
  | lifetime {members : List (String × Value)} {token stated : Value} {fault : Fault} :
      response.isOk = true → response.json? = .ok (some (.record members)) →
      members.lookup "access_token" = some token →
      members.lookup "expires_in" = some stated → stated.NoLifetime fault →
      SenselessToken response fault

/-- The answers to a lookup that make no sense, and why. -/
inductive SenselessFind (response : Response) : Fault → Prop
  | tooDeep : response.status ≠ notFoundStatus → response.TooDeep →
      SenselessFind response .bodyTooDeep

/-- The answers to a creation that make no sense, and why. -/
inductive SenselessCreation (response : Response) : Fault → Prop
  | tooDeep : response.isOk = false ∨ response.headerIdentifier? = none → response.TooDeep →
      SenselessCreation response .bodyTooDeep
  | noRecord {body : Value} : response.isOk = true → response.headerIdentifier? = none →
      response.json? = .ok (some body) → (∀ members, body ≠ .record members) →
      SenselessCreation response .creationNotRecord

/-- The answer names the object by a value that is no text. -/
structure Misnames (response : Response) (value : Value) : Prop where
  accepted : response.isOk = true
  named : ∃ members, response.json? = .ok (some (.record members)) ∧
    members.lookup "MetadataId" = some value
  noText : ∀ id, value ≠ .text id

theorem withholds_fault_iff (response : Response) (fault : Fault) :
    response.Withholds Binary64 (.fault fault) ↔ response.SenselessToken fault := by
  constructor
  · intro withholds
    generalize given : ClientError.fault fault = error at withholds
    cases withholds with
    | refused status =>
        rcases (response.tokenRefusal_eq_fault_iff fault).mp given.symm with
          ⟨deep, rfl⟩ | ⟨rfl, body, read, noRecord⟩
        · exact .tooDeep deep
        · exact .refusal status read noRecord
    | missing ok unread =>
        -- A body without a token is a failure to report; only one that is not read is a fault.
        rw [← given, token_eq_fault_iff] at unread
        rcases unread with ⟨deep, rfl⟩
        exact .tooDeep deep
    | unreadable ok read named reckoned =>
        cases given
        rcases (response.token_eq_ok_iff _ _).mp read with ⟨body, token⟩
        exact .lifetime ok body token named
          ((Binary64.ofLifetime_eq_error_iff _ _).mp reckoned)
  · intro senseless
    cases senseless with
    | tooDeep deep =>
        -- Both readings of a body, as a refusal and as a token, come to the same here.
        cases ok : response.isOk with
        | false =>
            have told : response.tokenRefusal = .fault .bodyTooDeep :=
              (response.tokenRefusal_eq_fault_iff _).mpr (Or.inl ⟨deep, rfl⟩)
            exact told ▸ .refused ok
        | true => exact .missing ok ((response.token_eq_fault_iff _).mpr ⟨deep, rfl⟩)
    | @refusal body status read noRecord =>
        have told : response.tokenRefusal = .fault .tokenRefusalNotRecord :=
          (response.tokenRefusal_eq_fault_iff _).mpr (Or.inr ⟨rfl, body, read, noRecord⟩)
        exact told ▸ .refused status
    | lifetime ok body token named none =>
        exact .unreadable ok ((response.token_eq_ok_iff _ _).mpr ⟨body, token⟩) named
          ((Binary64.ofLifetime_eq_error_iff _ _).mpr none)

theorem found_eq_fault_iff (response : Response) (action : String) (fault : Fault) :
    response.found action = .error (.fault fault) ↔ response.SenselessFind fault := by
  rw [found_eq_iff]
  constructor
  · intro found
    generalize given : ClientError.fault fault = error at found
    cases found with
    | refused status ok =>
        rcases (response.refusal_eq_fault_iff action fault).mp given.symm with ⟨deep, rfl⟩
        exact .tooDeep status deep
    | tooDeep status ok read =>
        cases given
        rcases (response.json?_eq_error_iff fault).mp read with ⟨deep, rfl⟩
        exact .tooDeep status deep
    | unreadable status ok read noRecord => cases given
  · intro senseless
    cases senseless with
    | tooDeep status deep =>
        cases ok : response.isOk with
        | false =>
            have told : response.refusal action = .fault .bodyTooDeep :=
              (response.refusal_eq_fault_iff action _).mpr ⟨deep, rfl⟩
            exact told ▸ .refused status ok
        | true =>
            exact .tooDeep status ok ((response.json?_eq_error_iff _).mpr ⟨deep, rfl⟩)

theorem created_eq_fault_iff (response : Response) (action : String) (fault : Fault) :
    response.created action = .error (.fault fault) ↔ response.SenselessCreation fault := by
  rw [created_eq_iff]
  constructor
  · intro created
    generalize given : ClientError.fault fault = error at created
    cases created with
    | refused ok =>
        rcases (response.refusal_eq_fault_iff action fault).mp given.symm with ⟨deep, rfl⟩
        exact .tooDeep (Or.inl ok) deep
    | tooDeep ok header read =>
        cases given
        rcases (response.json?_eq_error_iff fault).mp read with ⟨deep, rfl⟩
        exact .tooDeep (Or.inr header) deep
    | unreadable ok header read => cases given
    | unidentified ok header read named => cases given
    | noRecord ok header read noRecord =>
        cases given
        exact .noRecord ok header read noRecord
  · intro senseless
    cases senseless with
    | noRecord ok header read noRecord => exact .noRecord ok header read noRecord
    | tooDeep when deep =>
        cases ok : response.isOk with
        | false =>
            have told : response.refusal action = .fault .bodyTooDeep :=
              (response.refusal_eq_fault_iff action _).mpr ⟨deep, rfl⟩
            exact told ▸ .refused ok
        | true =>
            have header := when.resolve_left (by simp [ok])
            exact .tooDeep ok header ((response.json?_eq_error_iff _).mpr ⟨deep, rfl⟩)

theorem found_eq_other_iff (response : Response) (action : String) (value : Value) :
    response.found action = .ok (.other value) ↔
      response.status ≠ notFoundStatus ∧ value ≠ .null ∧ response.Misnames value := by
  rw [found_eq_iff]
  constructor
  · intro found
    cases found with
    | @identified members _ status ok read same =>
        rcases (RemoteId.ofValue_eq_other_iff _ _).mp same with ⟨member, present, noText⟩
        rcases named : members.lookup "MetadataId" with _ | named'
        · rw [named] at member
          exact absurd member.symm present
        · rw [named, Option.getD_some] at member
          cases member
          exact ⟨status, present, ok, ⟨members, read, named⟩, noText⟩
  · rintro ⟨status, present, ok, ⟨members, read, named⟩, noText⟩
    refine .identified status ok read ?_
    rw [named, Option.getD_some]
    exact (RemoteId.ofValue_eq_other_iff _ _).mpr ⟨rfl, present, noText⟩

theorem created_eq_noText_iff (response : Response) (action : String) (id : RemoteId) :
    response.created action = .ok id ∧ (∀ text, id ≠ .text text) ↔
      response.headerIdentifier? = none ∧ ∃ value, response.Misnames value ∧
        .ofValue value = id := by
  rw [created_eq_iff]
  constructor
  · rintro ⟨created, noText⟩
    cases created with
    | inHeader ok header => exact absurd rfl (noText _)
    | @identified members value _ ok header read named same =>
        cases same
        exact ⟨header, value, ⟨ok, ⟨members, read, named⟩,
          (RemoteId.ofValue_ne_text_iff value).mp noText⟩, rfl⟩
  · rintro ⟨header, value, ⟨ok, ⟨members, read, named⟩, noText⟩, rfl⟩
    exact ⟨.identified ok header read named rfl,
      (RemoteId.ofValue_ne_text_iff value).mpr noText⟩

end Response

/-! ## Calls -/

namespace Endpoint

/-- A payload is created as an object of its own kind. -/
theorem create_eq_ask {σ τ : Type} [Reckoning τ] (endpoint : Endpoint)
    (transport : Transport σ τ) (payload : Payload) (state : Connected σ τ) :
    (endpoint.client transport).create payload state =
      endpoint.ask transport (createQuery payload.kind payload)
        (·.created ("Create " ++ payload.kind.noun ++ " " ++ payload.name)) state := by
  cases payload <;> rfl

/-- The last answer makes no sense, be it of an authority or of the interface, or the last thing is
a wait that failed. -/
def Confused {σ τ : Type} [Reckoning τ] (endpoint : Endpoint) (transport : Transport σ τ)
    (query : Query) (senseless : Response → Fault → Prop) (state : Connected σ τ)
    (fault : Fault) : Prop :=
  (∃ response, endpoint.lastTokenAnswer? transport query state = some response ∧
    response.SenselessToken fault) ∨
  (∃ response, endpoint.lastAnswer? transport query state = some response ∧
    senseless response fault) ∨
  ∃ failure, endpoint.lastWaitFailure? transport query state = some failure ∧
    .wait failure = fault

/-- When a call of an endpoint gives neither a failure to report nor what is asked of a client:
exactly if the last answer makes no sense, a wait fails, or the last answer names the object by
something that is no text. A lookup gives a text, nothing or a failure otherwise, and a creation
a text or a failure. -/
theorem led_astray_iff {σ : Type} (endpoint : Endpoint) (transport : Transport σ Binary64)
    (state : Connected σ Binary64) :
    (∀ kind name,
      (∀ fault, ((endpoint.client transport).find kind name state).result =
          .error (.fault fault) ↔
        endpoint.Confused transport (findQuery kind name) Response.SenselessFind state fault) ∧
      ∀ value, ((endpoint.client transport).find kind name state).result =
          .ok (.other value) ↔
        ∃ response,
          endpoint.lastAnswer? transport (findQuery kind name) state = some response ∧
          response.status ≠ notFoundStatus ∧ value ≠ .null ∧ response.Misnames value) ∧
    ∀ payload,
      (∀ fault, ((endpoint.client transport).create payload state).result =
          .error (.fault fault) ↔
        endpoint.Confused transport (createQuery payload.kind payload)
          Response.SenselessCreation state fault) ∧
      ∀ id, ((endpoint.client transport).create payload state).result = .ok id ∧
          (∀ text, id ≠ .text text) ↔
        ∃ response,
          endpoint.lastAnswer? transport (createQuery payload.kind payload) state =
            some response ∧
          response.headerIdentifier? = none ∧
          ∃ value, response.Misnames value ∧ .ofValue value = id := by
  refine ⟨fun kind name => ⟨fun fault => ?_, fun value => ?_⟩,
    fun payload => ⟨fun fault => ?_, fun id => ?_⟩⟩
  · simp only [client, find, ask_fault_iff, Response.withholds_fault_iff,
      Response.found_eq_fault_iff, Confused]
  · simp only [client, find, ask_ok_iff, Response.found_eq_other_iff]
  · simp only [create_eq_ask, ask_fault_iff, Response.withholds_fault_iff,
      Response.created_eq_fault_iff, Confused]
  · simp only [create_eq_ask, ask_ok_iff, ← exists_and_right, and_assoc,
      Response.created_eq_noText_iff]

/-- A server that puts a query off for ever: the wait fails, and the call with it. -/
example :
    let transport : Transport (Script Binary64) Binary64 :=
      { Script.transport with
        wait := fun seconds script => (WaitFailure.check seconds, script.wait seconds) }
    let endpoint : Endpoint := { environmentUrl := "https://org.example.com", tokens := .given "t" }
    let putOff : Response := ⟨throttledStatus, none, [("Retry-After", "inf")], ""⟩
    ((endpoint.client transport).find .optionSet "new_s"
        ⟨.ofReplies [.ok putOff] (.zero false), .empty⟩).result =
      .error (.fault (.wait .tooLong)) := by
  rfl

/-- An endpoint need not answer as a run relies on. -/
theorem not_answers : ¬ ∀ endpoint : Endpoint,
    (endpoint.client Script.transport : Client (Connected (Script Binary64) Binary64)).Answers := by
  intro answers
  have read : Response.json? ⟨201, none, [], "[]"⟩ = .ok (some (.list [])) := by rfl
  let endpoint : Endpoint := { environmentUrl := "https://org.example.com", tokens := .given "t" }
  let payload : Payload := .optionSet ⟨"new_s", "S", [⟨100000000, "A"⟩], 1033⟩
  let answer : Response := ⟨201, none, [], "[]"⟩
  let state : Connected (Script Binary64) Binary64 :=
    ⟨.ofReplies [.ok answer] (Binary64.zero false), .empty⟩
  have last : endpoint.lastAnswer? Script.transport (createQuery payload.kind payload) state =
      some answer := rfl
  have senseless : answer.SenselessCreation .creationNotRecord :=
    .noRecord rfl rfl read (by simp)
  have fault : ((endpoint.client Script.transport).create payload state).result =
      .error (.fault .creationNotRecord) := by
    rw [create_eq_ask, ask_fault_iff]
    exact Or.inr (Or.inl ⟨answer, last, (answer.created_eq_fault_iff _ _).mpr senseless⟩)
  rcases (answers endpoint).create payload state with ⟨failure, same⟩ | ⟨id, same⟩
  · cases fault.symm.trans same
  · cases fault.symm.trans same

end Endpoint

end ErdDeploy
