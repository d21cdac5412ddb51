/-!
Results of what can fail.

That there is a result is told by anything that is evaluated of it (`exists_of_toOption_map`). A
result can be missing for a reason that is a finding or for one that is none; the latter blocks it
(`Blocked`), and a combinator is blocked where one of its parts is.
-/

namespace ErdDeploy

section

variable {ε α β : Type} {result : Except ε α}

theorem exists_of_isOk (ok : result.isOk = true) : ∃ value, result = .ok value := by
  cases result with
  | error error => cases ok
  | ok value => exact ⟨value, rfl⟩

theorem exists_of_toOption_bind {f : α → Option β} {evaluated : β}
    (evaluates : result.toOption.bind f = some evaluated) :
    ∃ value, result = .ok value ∧ f value = some evaluated := by
  cases result with
  | error error => cases evaluates
  | ok value => exact ⟨value, rfl, evaluates⟩

theorem exists_of_toOption_map {f : α → β} {evaluated : β}
    (evaluates : result.toOption.map f = some evaluated) :
    ∃ value, result = .ok value ∧ f value = evaluated := by
  cases result with
  | error error => cases evaluates
  | ok value => exact ⟨value, rfl, Option.some.inj evaluates⟩

end

/-- A result is missing for a reason that is no finding. -/
def Blocked {ε α : Type} (isFinding : ε → Bool) (result : Except ε α) : Prop :=
  ∃ error, result = .error error ∧ isFinding error = false

section

variable {ε α β : Type} {isFinding : ε → Bool}

@[simp] theorem blocked_error {error : ε} :
    Blocked isFinding (.error error : Except ε α) ↔ isFinding error = false := by
  simp [Blocked]

@[simp] theorem not_blocked_ok {value : α} : ¬ Blocked isFinding (.ok value) := by
  simp [Blocked]

theorem blocked_map {result : Except ε α} {f : α → β} :
    Blocked isFinding (result.map f) ↔ Blocked isFinding result := by
  cases result with
  | error error => simp [Except.map]
  | ok value => simp [Except.map]

theorem blocked_mapError {ε' : Type} {isFinding' : ε' → Bool} {result : Except ε α} {f : ε → ε'}
    (same : ∀ error, isFinding' (f error) = isFinding error) :
    Blocked isFinding' (result.mapError f) ↔ Blocked isFinding result := by
  cases result with
  | error error =>
      change Blocked isFinding' (.error (f error)) ↔ Blocked isFinding (.error error)
      rw [blocked_error, blocked_error, same]
  | ok value => exact iff_of_false not_blocked_ok not_blocked_ok

theorem mapError_eq_ok_iff {ε' : Type} {result : Except ε α} {f : ε → ε'} {value : α} :
    result.mapError f = .ok value ↔ result = .ok value := by
  cases result with
  | error error => exact iff_of_false nofun nofun
  | ok given =>
      change Except.ok given = .ok value ↔ Except.ok given = .ok value
      rw [Except.ok.injEq, Except.ok.injEq]

theorem blocked_bind {result : Except ε α} {next : α → Except ε β} :
    Blocked isFinding (result >>= next) ↔
      Blocked isFinding result ∨ ∃ value, result = .ok value ∧ Blocked isFinding (next value) := by
  cases result with
  | error error => simp [Bind.bind, Except.bind]
  | ok value => simp [Bind.bind, Except.bind]

end

end ErdDeploy
