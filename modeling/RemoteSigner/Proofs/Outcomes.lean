/-!
# Outcomes of steps that may fail

What is known of the steps of an action from its outcome.

## Main results

* `mapError_eq_ok_iff`, `map_eq_ok_iff`, `bind_eq_ok_iff`: an action succeeds only if its steps do
* `mapError_eq_error_iff`, `map_eq_error_iff`: and where a failure comes from
-/

namespace RemoteSigner

variable {ε ε' α β : Type}

theorem mapError_eq_ok_iff {f : ε → ε'} {result : Except ε α} {a : α} :
    result.mapError f = .ok a ↔ result = .ok a := by
  cases result with
  | error error => exact ⟨nofun, nofun⟩
  | ok a' =>
    exact ⟨fun same => congrArg _ (Except.ok.inj same), fun same => congrArg _ (Except.ok.inj same)⟩

theorem mapError_eq_error_iff {f : ε → ε'} {result : Except ε α} {error : ε'} :
    result.mapError f = .error error ↔ ∃ error', result = .error error' ∧ f error' = error := by
  cases result with
  | error error' =>
    constructor
    · exact fun same => ⟨error', rfl, Except.error.inj same⟩
    · rintro ⟨error'', same, rfl⟩
      exact congrArg (Except.mapError f) same
  | ok a =>
    constructor
    · nofun
    · rintro ⟨error', none, -⟩
      cases none

theorem map_eq_ok_iff {f : α → β} {result : Except ε α} {b : β} :
    result.map f = .ok b ↔ ∃ a, result = .ok a ∧ f a = b := by
  cases result with
  | error error =>
    constructor
    · nofun
    · rintro ⟨a, none, -⟩
      cases none
  | ok a =>
    constructor
    · exact fun same => ⟨a, rfl, Except.ok.inj same⟩
    · rintro ⟨a', same, rfl⟩
      exact congrArg (Except.map f) same

theorem map_eq_error_iff {f : α → β} {result : Except ε α} {error : ε} :
    result.map f = .error error ↔ result = .error error := by
  cases result with
  | error error' =>
    exact ⟨fun same => congrArg _ (Except.error.inj same), fun same =>
      congrArg _ (Except.error.inj same)⟩
  | ok a => exact ⟨nofun, nofun⟩

theorem bind_eq_ok_iff {result : Except ε α} {f : α → Except ε β} {b : β} :
    result >>= f = .ok b ↔ ∃ a, result = .ok a ∧ f a = .ok b := by
  cases result with
  | error error =>
    constructor
    · nofun
    · rintro ⟨a, none, -⟩
      cases none
  | ok a =>
    constructor
    · exact fun run => ⟨a, rfl, run⟩
    · rintro ⟨a', same, run⟩
      cases same
      exact run

end RemoteSigner
