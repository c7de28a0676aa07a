import Mathlib.Data.List.Basic

/-!
# Streamed updates

A state that is updated with texts streams when updating it with the pieces of
a text, one after another, is updating it with the whole text.
-/

namespace Foundation

universe u v w

variable {State : Type u} {Letter : Type v}

/-- Updates compose as the texts do. -/
structure Streams (update : State → List Letter → State) : Prop where
  nil : ∀ state, update state [] = state
  append :
    ∀ state front back,
      update state (front ++ back) = update (update state front) back

namespace Streams

/-- However the text is cut. -/
theorem pieces
    {update : State → List Letter → State} (streams : Streams update)
    (texts : List (List Letter)) (state : State) :
    texts.foldl update state = update state texts.flatten := by
  induction texts generalizing state with
  | nil =>
      exact (streams.nil state).symm
  | cons _ _ ih =>
      rw [List.foldl_cons, ih, List.flatten_cons, streams.append]

/-- A loop over the letters streams. -/
theorem foldl (step : State → Letter → State) :
    Streams (fun state text => text.foldl step state) where
  nil _ := rfl
  append _ _ _ := List.foldl_append

/-- So does an update between a change of representation and its inverse. -/
theorem conjugate
    {Inner : Type w} {update : Inner → List Letter → Inner}
    (streams : Streams update) {enter : State → Inner}
    {leave : Inner → State} (entered : ∀ inner, enter (leave inner) = inner)
    (left : ∀ state, leave (enter state) = state) :
    Streams (fun state text => leave (update (enter state) text)) where
  nil state := by
    rw [streams.nil]
    exact left state
  append state front back := by
    rw [streams.append, entered]

end Streams

end Foundation
