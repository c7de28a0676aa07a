import Mathlib.Tactic.Basic

/-!
# Guarded computations

A fallible operation is a chain of guards followed by a commitment.  Each
guard is a `refuseWhen`, so from the success of a chain one reads off, guard
by guard, that no refusal applied.
-/

namespace Foundation

universe u v w

variable {Failure : Type u} {First : Type v} {Second : Type w}

/-- Stop with `failure` when the condition holds. -/
def refuseWhen (condition : Prop) [Decidable condition]
    (failure : Failure) : Except Failure Unit :=
  if condition then .error failure else .ok ()

/-- The value of an option, or a failure when there is none. -/
def requireSome (failure : Failure) : Option First → Except Failure First
  | some value => .ok value
  | none => .error failure

/-- A chain succeeds exactly when its head and its continuation do. -/
theorem bind_eq_ok
    {Failure First Second : Type _}
    {head : Except Failure First}
    {continuation : First → Except Failure Second}
    {result : Second} :
    head >>= continuation = .ok result ↔
      ∃ value, head = .ok value ∧ continuation value = .ok result := by
  cases head with
  | error | ok =>
      simp [bind, Except.bind]

/-- A chain fails where its head fails, or later. -/
theorem bind_eq_error
    {Failure First Second : Type _}
    {head : Except Failure First}
    {continuation : First → Except Failure Second}
    {failure : Failure} :
    head >>= continuation = .error failure ↔
      head = .error failure ∨
        ∃ value, head = .ok value ∧ continuation value = .error failure := by
  cases head with
  | error | ok =>
      simp [bind, Except.bind]

/-- A chain ends with its head or goes on. -/
theorem bind_cases
    {Failure First Second : Type _}
    {head : Except Failure First}
    {continuation : First → Except Failure Second}
    {result : Except Failure Second}
    (chain : head >>= continuation = result) :
    (∃ failure, head = .error failure ∧ result = .error failure) ∨
      ∃ value, head = .ok value ∧ continuation value = result := by
  cases head with
  | error failure =>
      exact .inl ⟨failure, rfl, chain.symm⟩
  | ok value =>
      exact .inr ⟨value, rfl, chain⟩

@[simp]
theorem refuseWhen_eq_error
    {condition : Prop} [Decidable condition]
    {failure other : Failure} :
    refuseWhen condition failure = .error other ↔
      condition ∧ failure = other := by
  unfold refuseWhen
  split <;> simp_all

@[simp]
theorem refuseWhen_eq_ok
    {condition : Prop} [Decidable condition]
    {failure : Failure} {result : Unit} :
    refuseWhen condition failure = .ok result ↔ ¬ condition := by
  unfold refuseWhen
  split <;> simp_all

@[simp]
theorem requireSome_eq_error
    {failure other : Failure} {candidate : Option First} :
    requireSome failure candidate = .error other ↔
      candidate = none ∧ failure = other := by
  cases candidate <;> simp [requireSome]

@[simp]
theorem requireSome_eq_ok
    {failure : Failure} {candidate : Option First} {value : First} :
    requireSome failure candidate = .ok value ↔ candidate = some value := by
  cases candidate <;> simp [requireSome]

/-- A result that passes a test is a success. -/
theorem ok_of_any
    {result : Except Failure First} {test : First → Bool}
    (passed : result.toOption.any test = true) :
    ∃ value, result = .ok value ∧ test value = true := by
  cases result with
  | error =>
      cases passed
  | ok value =>
      exact ⟨value, rfl, passed⟩

/-- What holds of the result of a chain, if there is one, can be decided. -/
instance decidableForallOk
    {Property : First → Prop} [DecidablePred Property] :
    (result : Except Failure First) →
      Decidable (∀ value, result = .ok value → Property value)
  | .error _ => isTrue (fun _ wrong => nomatch wrong)
  | .ok value =>
      decidable_of_iff (Property value)
        ⟨fun holds _ same => Except.ok.inj same ▸ holds,
          fun holds => holds value rfl⟩

end Foundation
