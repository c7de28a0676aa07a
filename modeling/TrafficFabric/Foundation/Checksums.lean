import Mathlib.Logic.Function.Basic

/-!
# Checksums by folding

A checksum runs a register over the letters of a text.  When every step can
be undone, from the letter as well as from the register, two texts that
differ in a single letter never leave the same register, however much text
follows.
-/

namespace Foundation

universe u v

variable {Register : Type u} {Letter : Type v}

/-- A step that loses neither the register nor the letter. -/
structure Reversible (step : Register → Letter → Register) : Prop where
  register : ∀ letter, Function.Injective (step · letter)
  letter : ∀ register, Function.Injective (step register)

namespace Reversible

variable {step : Register → Letter → Register}

theorem foldl_injective
    (reversible : Reversible step) (text : List Letter) :
    Function.Injective (text.foldl step) := by
  induction text with
  | nil =>
      intro left right same
      exact same
  | cons letter _ ih =>
      intro left right same
      exact reversible.register letter (ih same)

/-- A changed letter changes the register. -/
theorem foldl_set_ne
    (reversible : Reversible step) {text : List Letter} {position : Nat}
    {letter : Letter} (inside : position < text.length)
    (changed : text[position] ≠ letter) (register : Register) :
    (text.set position letter).foldl step register ≠
      text.foldl step register := by
  induction text generalizing position register with
  | nil =>
      cases inside
  | cons first text ih =>
      cases position with
      | zero =>
          intro same
          exact changed (reversible.letter register
            (reversible.foldl_injective text same)).symm
      | succ =>
          exact ih (Nat.lt_of_succ_lt_succ inside) changed (step register first)

end Reversible

end Foundation
