import ErdDeploy.Web.MetadataClient

/-!
How answers are read.

`Response.Found` and `Response.Created` say once what the answer to a lookup and the answer
to a creation come to, depending on the status, on the header that may hold an identifier,
and on the body; `Response.found_eq_iff` and `Response.created_eq_iff` say that nothing else
can come of them. What remains are the ways in which a body makes no sense: it stands too
deep (`Response.TooDeep`), or an authority refuses with JSON that is no record.
-/

namespace ErdDeploy

/-! ## Identifiers -/

namespace RemoteId

theorem ofValue_eq_absent_iff (value : Value) : ofValue value = .absent ↔ value = .null := by
  cases value <;> simp [ofValue]

theorem ofValue_eq_other_iff (value value' : Value) :
    ofValue value = .other value' ↔
      value = value' ∧ value' ≠ .null ∧ ∀ id, value' ≠ .text id := by
  cases value <;> simp [ofValue] <;> rintro rfl <;> simp

theorem ofValue_ne_text_iff (value : Value) :
    (∀ id, ofValue value ≠ .text id) ↔ ∀ id, value ≠ .text id := by
  cases value <;> simp [ofValue]

end RemoteId

namespace Response

/-! ## Bodies -/

/-- The lists and records of the body stand too deep in each other to be read. -/
def TooDeep (response : Response) : Prop :=
  Json.read response.body.toList = .error .tooDeep

theorem json?_eq_error_iff (response : Response) (fault : Fault) :
    response.json? = .error fault ↔ response.TooDeep ∧ fault = .bodyTooDeep := by
  unfold json? TooDeep
  rcases Json.read response.body.toList with (_ | _) | value
  · simp
  · simp [eq_comm]
  · simp

/-! ## Lookups -/

/-- How the answer to a lookup is read. -/
inductive Found (response : Response) (action : String) : Except ClientError RemoteId → Prop
  | notFound : response.status = notFoundStatus → Found response action (.ok .absent)
  | refused : response.status ≠ notFoundStatus → response.isOk = false →
      Found response action (.error (response.refusal action))
  | tooDeep {fault : Fault} : response.status ≠ notFoundStatus → response.isOk = true →
      response.json? = .error fault → Found response action (.error (.fault fault))
  | unreadable {body : Option Value} : response.status ≠ notFoundStatus →
      response.isOk = true → response.json? = .ok body →
      (∀ members, body ≠ some (.record members)) →
      Found response action
        (.error (response.failure (action ++ ": unreadable response body") .null))
  | identified {members : List (String × Value)} {id : RemoteId} :
      response.status ≠ notFoundStatus → response.isOk = true →
      response.json? = .ok (some (.record members)) →
      .ofValue ((members.lookup "MetadataId").getD .null) = id → Found response action (.ok id)

theorem found_eq_iff {response : Response} {action : String}
    {result : Except ClientError RemoteId} :
    response.found action = result ↔ response.Found action result := by
  constructor
  · rintro rfl
    unfold found
    by_cases status : response.status = notFoundStatus
    · rw [if_pos status]
      exact .notFound status
    · rw [if_neg status]
      cases ok : response.isOk with
      | false => exact .refused status ok
      | true =>
          rcases read : response.json? with fault | _ | body
          · exact .tooDeep status ok read
          · exact .unreadable status ok read (by simp)
          · cases body with
            | record members => exact .identified status ok read rfl
            | _ => exact .unreadable status ok read (by simp)
  · intro found
    unfold Response.found
    cases found with
    | notFound status => rw [if_pos status]
    | refused status ok => simp only [if_neg status, ok, Bool.not_false, if_true]
    | tooDeep status ok read =>
        simp only [if_neg status, ok, Bool.not_true, Bool.false_eq_true, if_false, read]
    | identified status ok read same =>
        simp only [if_neg status, ok, Bool.not_true, Bool.false_eq_true, if_false, read, same]
    | unreadable status ok read noRecord =>
        simp only [if_neg status, ok, Bool.not_true, Bool.false_eq_true, if_false, read]

/-! ## Creations -/

/-- The identifier that the headers give. -/
def headerIdentifier? (response : Response) : Option (List Char) :=
  enclosedIdentifier? ((response.header? "OData-EntityId").getD "").toList

/-- What is reported of an accepted creation without an identifier. -/
def identifierMissing (response : Response) (action : String) : ClientError :=
  response.failure (action ++ ": response carries no identifier") .null

/-- How the answer to a creation is read. -/
inductive Created (response : Response) (action : String) :
    Except ClientError RemoteId → Prop
  | refused : response.isOk = false → Created response action (.error (response.refusal action))
  | inHeader {identifier : List Char} : response.isOk = true →
      response.headerIdentifier? = some identifier →
      Created response action (.ok (.text (String.ofList identifier)))
  | tooDeep {fault : Fault} : response.isOk = true → response.headerIdentifier? = none →
      response.json? = .error fault → Created response action (.error (.fault fault))
  | unreadable : response.isOk = true → response.headerIdentifier? = none →
      response.json? = .ok none →
      Created response action (.error (response.identifierMissing action))
  | identified {members : List (String × Value)} {value : Value} {id : RemoteId} :
      response.isOk = true → response.headerIdentifier? = none →
      response.json? = .ok (some (.record members)) →
      members.lookup "MetadataId" = some value → .ofValue value = id →
      Created response action (.ok id)
  | unidentified {members : List (String × Value)} :
      response.isOk = true → response.headerIdentifier? = none →
      response.json? = .ok (some (.record members)) → members.lookup "MetadataId" = none →
      Created response action (.error (response.identifierMissing action))
  | noRecord {body : Value} : response.isOk = true → response.headerIdentifier? = none →
      response.json? = .ok (some body) → (∀ members, body ≠ .record members) →
      Created response action (.error (.fault .creationNotRecord))

theorem created_eq_iff {response : Response} {action : String}
    {result : Except ClientError RemoteId} :
    response.created action = result ↔ response.Created action result := by
  unfold Response.created
  rw [← headerIdentifier?]
  constructor
  · rintro rfl
    cases ok : response.isOk with
    | false => exact .refused ok
    | true =>
        rcases header : response.headerIdentifier? with _ | identifier
        · rcases read : response.json? with fault | _ | body
          · exact .tooDeep ok header read
          · exact .unreadable ok header read
          · cases body with
            | record members =>
                rcases named : members.lookup "MetadataId" with _ | value
                · simp only [Bool.not_true, Bool.false_eq_true, if_false, named]
                  exact .unidentified ok header read named
                · simp only [Bool.not_true, Bool.false_eq_true, if_false, named]
                  exact .identified ok header read named rfl
            | _ => exact .noRecord ok header read (by simp)
        · exact .inHeader ok header
  · intro created
    cases created with
    | refused ok => simp only [ok, Bool.not_false, if_true]
    | inHeader ok header =>
        simp only [ok, Bool.not_true, Bool.false_eq_true, if_false, header]
    | tooDeep ok header read | unreadable ok header read =>
        simp only [ok, Bool.not_true, Bool.false_eq_true, if_false, header, read,
          identifierMissing]
    | identified ok header read named same =>
        simp only [ok, Bool.not_true, Bool.false_eq_true, if_false, header, read, named, same]
    | unidentified ok header read named =>
        simp only [ok, Bool.not_true, Bool.false_eq_true, if_false, header, read, named,
          identifierMissing]
    | noRecord ok header read noRecord =>
        simp only [ok, Bool.not_true, Bool.false_eq_true, if_false, header, read]

/-- A refusal is told by the interface, unless its body stands too deep. -/
theorem refusal_eq_fault_iff (response : Response) (action : String) (fault : Fault) :
    response.refusal action = .fault fault ↔ response.TooDeep ∧ fault = .bodyTooDeep := by
  rw [← json?_eq_error_iff, refusal]
  rcases read : response.json? with fault' | body
  · simp
  · simp [failure]

/-! ## Tokens -/

/-- A refused token is told by the authority, unless its body stands too deep or is JSON, but
no record. -/
theorem tokenRefusal_eq_fault_iff (response : Response) (fault : Fault) :
    response.tokenRefusal = .fault fault ↔
      (response.TooDeep ∧ fault = .bodyTooDeep) ∨
      fault = .tokenRefusalNotRecord ∧ ∃ body, response.json? = .ok (some body) ∧
        ∀ members, body ≠ .record members := by
  rw [← json?_eq_error_iff, tokenRefusal]
  rcases read : response.json? with fault' | _ | body
  · simp
  · simp [failure]
  · cases body <;> simp [failure, eq_comm]

theorem token_eq_ok_iff (response : Response) (token : Value)
    (members : List (String × Value)) :
    response.token = .ok (token, members) ↔
      response.json? = .ok (some (.record members)) ∧
        members.lookup "access_token" = some token := by
  constructor
  · intro given
    unfold Response.token at given
    split at given
    · cases given
    · rename_i read
      split at given
      · rename_i named
        cases given
        exact ⟨read, named⟩
      · cases given
    · cases given
  · rintro ⟨read, named⟩
    simp only [Response.token, read, named]

theorem token_eq_fault_iff (response : Response) (fault : Fault) :
    response.token = .error (.fault fault) ↔ response.TooDeep ∧ fault = .bodyTooDeep := by
  rw [← json?_eq_error_iff, Response.token]
  rcases read : response.json? with fault' | _ | body
  · simp
  · simp [tokenMissing, failure]
  · cases body with
    | record members =>
        rcases named : members.lookup "access_token" with _ | token <;>
          simp [named, tokenMissing, failure]
    | _ => simp [tokenMissing, failure]

end Response

end ErdDeploy
