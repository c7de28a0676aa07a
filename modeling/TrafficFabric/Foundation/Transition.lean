import Mathlib.Logic.Relation

/-!
# Labelled runs and their invariants

A run records the labels of its steps in order.  Invariants are proved from
one step; a run may be restricted to steps that meet a condition, and an
invariant may speak about the history as well as the state.
-/

namespace Foundation

universe u v

variable {State : Type u} {Label : Type v}

/-- The runs of a labelled relation from a start state. -/
inductive Run (Step : State → Label → State → Prop) (start : State) :
    List Label → State → Prop
  | start : Run Step start [] start
  | step {history : List Label} {state next : State} {label : Label}
      (earlier : Run Step start history state)
      (last : Step state label next) :
      Run Step start (history ++ [label]) next

namespace Run

variable {Step : State → Label → State → Prop} {start : State}

/-- An invariant of history and state holds at the end of every run. -/
theorem historyInvariant
    {Invariant : List Label → State → Prop}
    (initially : Invariant [] start)
    (preserved :
      ∀ history state label next,
        Run Step start history state →
        Step state label next →
        Invariant history state →
        Invariant (history ++ [label]) next)
    {history : List Label} {state : State}
    (run : Run Step start history state) :
    Invariant history state := by
  induction run with
  | start =>
      exact initially
  | step earlier last hypothesis =>
      exact preserved _ _ _ _ earlier last hypothesis

/-- An invariant kept by every step holds at the end of every run. -/
theorem invariant
    {Invariant : State → Prop}
    (initially : Invariant start)
    (preserved :
      ∀ state label next,
        Step state label next → Invariant state → Invariant next)
    {history : List Label} {state : State}
    (run : Run Step start history state) :
    Invariant state :=
  @historyInvariant _ _ _ _ (fun _ state => Invariant state) initially
    (fun _ state label next _ last holds =>
      preserved state label next last holds)
    _ _ run

/-- Runs compose. -/
theorem append
    {middle final : State} {first second : List Label}
    (earlier : Run Step start first middle)
    (later : Run Step middle second final) :
    Run Step start (first ++ second) final := by
  induction later with
  | start =>
      rw [List.append_nil]
      exact earlier
  | step _ last hypothesis =>
      rw [← List.append_assoc]
      exact .step hypothesis last

/-- A run of one step. -/
theorem single
    {label : Label} {next : State} (step : Step start label next) :
    Run Step start [label] next :=
  .step .start step

/-- A run of a smaller relation is a run of a larger one. -/
theorem mono
    {Wider : State → Label → State → Prop}
    (included :
      ∀ state label next, Step state label next → Wider state label next)
    {history : List Label} {state : State}
    (run : Run Step start history state) :
    Run Wider start history state := by
  induction run with
  | start =>
      exact .start
  | step _ last hypothesis =>
      exact .step hypothesis (included _ _ _ last)

end Run

/-- An invariant kept by every step is kept by finitely many of them. -/
theorem reflTransGen_preserves
    {Step : State → State → Prop} {Invariant : State → Prop}
    (preserved :
      ∀ state next, Step state next → Invariant state → Invariant next)
    {state next : State}
    (steps : Relation.ReflTransGen Step state next)
    (holds : Invariant state) :
    Invariant next := by
  induction steps with
  | refl =>
      exact holds
  | tail _ last hypothesis =>
      exact preserved _ _ last hypothesis

/-- What each step of a loop leaves alone, the loop leaves alone. -/
theorem foldl_preserves
    {Item View : Type*} (view : State → View) {step : State → Item → State}
    (kept : ∀ state item, view (step state item) = view state)
    (items : List Item) (state : State) :
    view (items.foldl step state) = view state := by
  induction items generalizing state with
  | nil =>
      rfl
  | cons item _ hypothesis =>
      exact (hypothesis _).trans (kept state item)

end Foundation
