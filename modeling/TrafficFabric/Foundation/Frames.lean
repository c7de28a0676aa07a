import Mathlib.Data.List.Basic
import Mathlib.Order.Basic

/-!
# Streams of framed records

A log is the concatenation of the encodings of its records.  The rules below
say where such a stream ends when it is cut after some number of bytes: after
a number of whole records, and inside the next one.  They know nothing of the
encoding but its lengths.
-/

namespace Foundation

namespace Frames

variable {Record Byte : Type*} (encode : Record → List Byte)

/-- The bytes of a list of records. -/
def stream (records : List Record) : List Byte :=
  records.flatMap encode

/-- The number of bytes that the first `count` records take. -/
def boundary (records : List Record) (count : Nat) : Nat :=
  (stream encode (records.take count)).length

@[simp]
theorem stream_nil : stream encode [] = [] :=
  rfl

@[simp]
theorem stream_cons (record : Record) (records : List Record) :
    stream encode (record :: records) =
      encode record ++ stream encode records :=
  rfl

theorem stream_append (earlier later : List Record) :
    stream encode (earlier ++ later) =
      stream encode earlier ++ stream encode later :=
  List.flatMap_append

/-- The boundary after one more record. -/
theorem boundary_succ
    {records : List Record} {count : Nat} {record : Record}
    (present : records[count]? = some record) :
    boundary encode records (count + 1) =
      boundary encode records count + (encode record).length := by
  rw [boundary, List.take_add_one, present, stream_append,
    List.length_append]
  simp [boundary]

theorem boundary_mono
    {records : List Record} {fewer more : Nat} (ordered : fewer ≤ more) :
    boundary encode records fewer ≤ boundary encode records more := by
  induction ordered with
  | refl => exact Nat.le_refl _
  | @step count _ below =>
    cases present : records[count]? with
    | none =>
      have beyond : records.length ≤ count :=
        List.getElem?_eq_none_iff.mp present
      have same : records.take (count + 1) = records.take count := by
        rw [List.take_of_length_le beyond,
          List.take_of_length_le (Nat.le_succ_of_le beyond)]
      rw [boundary, boundary, same]
      exact below
    | some =>
      rw [boundary_succ encode present]
      omega

/--
A stream cut after `size` bytes: `whole` records are complete, and `tail` is
what is left of the next one.
-/
structure IsCut
    (records : List Record) (size whole : Nat) (tail : List Byte) :
    Prop where
  within : whole ≤ records.length
  bytes :
    (stream encode records).take size =
      stream encode (records.take whole) ++ tail
  torn :
    ∀ record, records[whole]? = some record →
      tail <+: encode record ∧ tail.length < (encode record).length
  ended : whole = records.length → tail = []

/-- Every cut falls after some whole records. -/
theorem exists_cut (records : List Record) (size : Nat) :
    ∃ whole tail, IsCut encode records size whole tail := by
  induction records generalizing size with
  | nil =>
    exact ⟨0, [], Nat.le_refl _, by simp, by simp, fun _ => rfl⟩
  | cons record _ cut =>
    rcases Nat.lt_or_ge size (encode record).length with short | reached
    · -- The cut falls inside the first record.
      refine ⟨0, (encode record).take size, Nat.zero_le _, ?_, ?_, ?_⟩
      · rw [stream_cons, List.take_append_of_le_length (Nat.le_of_lt short)]
        rfl
      · intro next present
        obtain rfl : record = next := by simpa using present
        refine ⟨List.take_prefix _ _, ?_⟩
        rw [List.length_take]
        omega
      · intro ended
        simp at ended
    · -- The first record is whole, and the cut falls in the rest.
      obtain ⟨whole, tail, within, bytes, torn, ended⟩ :=
        cut (size - (encode record).length)
      refine ⟨whole + 1, tail, Nat.succ_le_succ within, ?_, ?_, ?_⟩
      · rw [stream_cons, List.take_append, List.take_of_length_le reached,
          bytes, List.take_succ_cons, stream_cons, List.append_assoc]
      · intro next present
        exact torn next (by simpa using present)
      · intro closed
        exact ended (by simpa using closed)

section Cuts

variable {encode}
variable {records : List Record} {size whole : Nat} {tail : List Byte}

/-- A cut within the stream lies that far beyond its last boundary. -/
theorem IsCut.size_eq
    (cut : IsCut encode records size whole tail)
    (inside : size ≤ (stream encode records).length) :
    size = boundary encode records whole + tail.length := by
  have counted := congrArg List.length cut.bytes
  rw [List.length_take, List.length_append, Nat.min_eq_left inside]
    at counted
  exact counted

/-- No later boundary lies within the cut. -/
theorem IsCut.greatest
    (cut : IsCut encode records size whole tail)
    (inside : size ≤ (stream encode records).length)
    {count : Nat} (counted : count ≤ records.length)
    (reached : boundary encode records count ≤ size) : count ≤ whole := by
  by_contra later
  obtain ⟨record, present⟩ : ∃ record, records[whole]? = some record :=
    ⟨_, List.getElem?_eq_getElem (by omega)⟩
  have next := boundary_succ encode present
  have beyond :
      boundary encode records (whole + 1) ≤
        boundary encode records count :=
    boundary_mono encode (Nat.lt_of_not_le later)
  have short := (cut.torn record present).2
  have extent := cut.size_eq inside
  omega

/-- A cut leaves nothing over exactly when it falls on a boundary. -/
theorem IsCut.tail_eq_nil_iff
    (cut : IsCut encode records size whole tail)
    (inside : size ≤ (stream encode records).length) :
    tail = [] ↔
      ∃ count ≤ records.length, boundary encode records count = size := by
  have extent := cut.size_eq inside
  constructor
  · rintro rfl
    exact ⟨whole, cut.within, extent.symm⟩
  · rintro ⟨count, counted, reached⟩
    have ordered :
        boundary encode records count ≤ boundary encode records whole :=
      boundary_mono encode
        (cut.greatest inside counted (Nat.le_of_eq reached))
    exact List.eq_nil_of_length_eq_zero (by omega)

end Cuts

end Frames

end Foundation
