import TrafficFabric.Foundation.Results

/-!
# What a chain of checks can fail with

A property of the failure of a chain is checked failure by failure, along the
chain.
-/

namespace Foundation

variable {Failure First Second : Type} {Expected : Failure → Prop}

/-- Every failure of the result has the property. -/
def FailsWith (Expected : Failure → Prop) (result : Except Failure First) :
    Prop :=
  ∀ failure, result = .error failure → Expected failure

namespace FailsWith

theorem ok (value : First) :
    FailsWith Expected (.ok value : Except Failure First) := by
  intro failure wrong
  cases wrong

theorem error {failure : Failure} (expected : Expected failure) :
    FailsWith Expected (.error failure : Except Failure First) := by
  intro other same
  cases same
  exact expected

theorem bind
    {head : Except Failure First}
    {continuation : First → Except Failure Second}
    (first : FailsWith Expected head)
    (rest : ∀ value, FailsWith Expected (continuation value)) :
    FailsWith Expected (head >>= continuation) := by
  intro failure failed
  rcases bind_eq_error.mp failed with own | ⟨value, _, later⟩
  · exact first failure own
  · exact rest value failure later

theorem refuse
    {condition : Prop} [Decidable condition] {failure : Failure}
    (expected : Expected failure) :
    FailsWith Expected (refuseWhen condition failure) := by
  intro other failed
  cases (refuseWhen_eq_error.mp failed).2
  exact expected

theorem require
    {failure : Failure} {candidate : Option First}
    (expected : Expected failure) :
    FailsWith Expected (requireSome failure candidate) := by
  intro other failed
  cases (requireSome_eq_error.mp failed).2
  exact expected

end FailsWith

end Foundation
