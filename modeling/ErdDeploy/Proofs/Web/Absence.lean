import ErdDeploy.Proofs.Web.Answers
import ErdDeploy.Proofs.Web.Trails

/-!
When a lookup finds nothing.

A run that is told that an object is absent creates it, so it matters what is taken for
absence. It is not the status 404 alone: a success whose body is a record without an
identifier, or with null for one, is taken for it as well (`Response.TellsAbsence`), and
`Endpoint.not_absent_only_notFound` is an endpoint that meets such an answer. Nothing else
is, whatever the transport answers, and however often it puts the lookup off: see
`Endpoint.find_absent_iff`.
-/

namespace ErdDeploy

/-- The answers to a lookup that are taken to say that there is no such object. -/
inductive Response.TellsAbsence (response : Response) : Prop
  | notFound : response.status = notFoundStatus → TellsAbsence response
  | unidentified {members : List (String × Value)} : response.isOk = true →
      response.json? = .ok (some (.record members)) →
      members.lookup "MetadataId" = none ∨ members.lookup "MetadataId" = some .null →
      TellsAbsence response

namespace Response

theorem found_eq_absent_iff (response : Response) (action : String) :
    response.found action = .ok .absent ↔ response.TellsAbsence := by
  rw [found_eq_iff]
  constructor
  · intro found
    cases found with
    | notFound status => exact .notFound status
    | @identified members _ status ok read same =>
        refine .unidentified ok read ?_
        cases named : members.lookup "MetadataId" with
        | none => exact Or.inl rfl
        | some value =>
            rw [named, Option.getD_some, RemoteId.ofValue_eq_absent_iff] at same
            exact Or.inr (congrArg some same)
  · intro tells
    cases tells with
    | notFound status => exact .notFound status
    | unidentified ok read unnamed =>
        by_cases status : response.status = notFoundStatus
        · exact .notFound status
        · refine .identified status ok read ?_
          rcases unnamed with named | named <;> rw [named] <;> rfl

end Response

namespace Endpoint

/-- A lookup finds nothing exactly if the answer on which it ends tells of absence. -/
theorem find_absent_iff {σ τ : Type} [Reckoning τ] (endpoint : Endpoint)
    (transport : Transport σ τ) (kind : ObjectKind) (name : String) (state : Connected σ τ) :
    (endpoint.find transport kind name state).result = .ok .absent ↔
      ∃ response, endpoint.lastAnswer? transport (findQuery kind name) state = some response ∧
        response.TellsAbsence := by
  rw [find, ask_ok_iff]
  constructor
  · rintro ⟨response, last, absent⟩
    exact ⟨response, last, (response.found_eq_absent_iff _).mp absent⟩
  · rintro ⟨response, last, tells⟩
    exact ⟨response, last, (response.found_eq_absent_iff _).mpr tells⟩

/-- It is not only the status 404 that is taken for absence. -/
theorem not_absent_only_notFound : ¬ ∀ (endpoint : Endpoint) (kind : ObjectKind) (name : String)
    (state : Connected (Script Binary64) Binary64),
    (endpoint.find Script.transport kind name state).result = .ok .absent →
      ∃ response, endpoint.lastAnswer? Script.transport (findQuery kind name) state =
        some response ∧ response.status = notFoundStatus := by
  intro only
  have read : Response.json? ⟨200, none, [], "\x7b\x7d"⟩ = .ok (some (.record [])) := by rfl
  let endpoint : Endpoint := { environmentUrl := "https://org.example.com", tokens := .given "t" }
  let answer : Response := ⟨200, none, [], "\x7b\x7d"⟩
  let state : Connected (Script Binary64) Binary64 :=
    ⟨.ofReplies [.ok answer] (Binary64.zero false), .empty⟩
  have last : endpoint.lastAnswer? Script.transport (findQuery .optionSet "new_s") state =
      some answer := rfl
  have tells : answer.TellsAbsence := .unidentified rfl read (Or.inl rfl)
  have absent : (endpoint.find Script.transport .optionSet "new_s" state).result =
      .ok .absent :=
    (ask_ok_iff _ _ _ _ _ _).mpr ⟨answer, last, (answer.found_eq_absent_iff _).mpr tells⟩
  rcases only endpoint .optionSet "new_s" state absent with ⟨response, same, status⟩
  cases last.symm.trans same
  exact absurd status (by decide)

end Endpoint

end ErdDeploy
