import Mathlib.Tactic.Common

/-!
# Results and failures

What is asked of an outcome again and again: whether it has a value, and what it was before its
failure was put in other words.
-/

namespace SshTunnel

variable {ε ε' α : Type} {outcome : Except ε α} {a : α} {failure : ε'}

/-- An outcome that has a value is this value. -/
theorem eq_ok_of_toOption (h : outcome.toOption = some a) : outcome = .ok a := by
  cases outcome with
  | error e => cases h
  | ok b => rw [Option.some.inj h]

@[simp] theorem mapError_ok (f : ε → ε') (a : α) :
    (Except.ok a : Except ε α).mapError f = .ok a := rfl

@[simp] theorem mapError_error (f : ε → ε') (e : ε) :
    (Except.error e : Except ε α).mapError f = .error (f e) := rfl

/-- Other words for a failure leave a result as it is. -/
theorem mapError_eq_ok_iff {f : ε → ε'} : outcome.mapError f = .ok a ↔ outcome = .ok a := by
  cases outcome <;> simp

/-- A failure in other words was a failure before. -/
theorem mapError_eq_error_iff {f : ε → ε'} :
    outcome.mapError f = .error failure ↔ ∃ e, outcome = .error e ∧ f e = failure := by
  cases outcome <;> simp

end SshTunnel
