import Mathlib.Logic.Basic

/-! # Computations that may fail

A sequence of steps in `Except` has a result exactly when each of its steps has one, and fails with
the error of the first step that fails, so a proof about it takes the steps apart one by one. -/

namespace Diego.Fallible

variable {ε α β : Type}

variable {x : Except ε α} {f : α → Except ε β} {b : β} {err : ε}

theorem bind_eq_ok_iff : (x >>= f) = .ok b ↔ ∃ a, x = .ok a ∧ f a = .ok b := by
  constructor
  · intro hresult
    cases x with
    | error err => cases hresult
    | ok a => exact ⟨a, rfl, hresult⟩
  · rintro ⟨a, rfl, hresult⟩
    exact hresult

theorem bind_eq_error_iff :
    (x >>= f) = .error err ↔ x = .error err ∨ ∃ a, x = .ok a ∧ f a = .error err := by
  constructor
  · intro hresult
    cases x with
    | error err' => exact Or.inl (congrArg _ (Except.error.inj hresult))
    | ok a => exact Or.inr ⟨a, rfl, hresult⟩
  · rintro (rfl | ⟨a, rfl, hresult⟩)
    · rfl
    · exact hresult

theorem map_eq_ok_iff {f : α → β} : (f <$> x) = .ok b ↔ ∃ a, x = .ok a ∧ f a = b := by
  constructor
  · intro hresult
    cases x with
    | error err => cases hresult
    | ok a => exact ⟨a, rfl, Except.ok.inj hresult⟩
  · rintro ⟨a, rfl, rfl⟩
    rfl

theorem map_eq_error_iff {f : α → β} : (f <$> x) = .error err ↔ x = .error err := by
  constructor
  · intro hresult
    cases x with
    | error err' => exact congrArg _ (Except.error.inj hresult)
    | ok a => cases hresult
  · rintro rfl
    rfl

/-- A loop over the first `n` numbers ends, with what each round keeps. -/
theorem foldlM_range_ok {f : α → Nat → Except ε α} {P : Nat → α → Prop} {a : α} {n : Nat}
    (h : P 0 a) (hround : ∀ i < n, ∀ a, P i a → ∃ b, f a i = .ok b ∧ P (i + 1) b) :
    ∃ b, (List.range n).foldlM f a = .ok b ∧ P n b := by
  induction n with
  | zero => exact ⟨a, rfl, h⟩
  | succ n ih =>
    obtain ⟨b, hb, hkept⟩ := ih fun i hi => hround i (Nat.lt_succ_of_lt hi)
    obtain ⟨c, hc, hkept⟩ := hround n (Nat.lt_succ_self n) b hkept
    refine ⟨c, ?_, hkept⟩
    rw [List.range_succ, List.foldlM_append, hb]
    exact congrArg (· >>= pure) hc

/-- The error, which can be compared where results cannot. -/
def error? : Except ε α → Option ε
  | .error err => some err
  | .ok _ => none

theorem error?_eq_some_iff : error? x = some err ↔ x = .error err := by
  cases x <;> simp [error?]

end Diego.Fallible
