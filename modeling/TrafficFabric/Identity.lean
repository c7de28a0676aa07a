import TrafficFabric.Text

/-!
# Stable identities, generations and epochs

`include/ctf/ids.hpp` and `src/ids.cpp`.  Identities are 128-bit values in
five separate domains, generations are 64-bit counters in separate fenced
dimensions, and an epoch is an incarnation together with a term.

The identity source is seeded once and then deterministic.  Its generator is
`std::mt19937_64`, given here by its defining recurrence, so the `index`-th
identity of a seed is a closed function of both.
-/

namespace TrafficFabric

/-! ## Values -/

/-- A 128-bit identity. -/
structure Uuid128 where
  bytes : List UInt8
  size : bytes.length = 16
deriving DecidableEq

namespace Uuid128

/-- The identity whose bytes are all zero. -/
def nil : Uuid128 where
  bytes := List.replicate 16 0
  size := by simp

def isNil (identity : Uuid128) : Bool :=
  identity.bytes.all (· == 0)

/-- Canonical text form: 8-4-4-4-12 lower-case hexadecimal digits. -/
def toText (identity : Uuid128) : Text :=
  identity.bytes.zipIdx.flatMap fun (byte, index) =>
    (if index = 4 ∨ index = 6 ∨ index = 8 ∨ index = 10
      then ascii "-" else []) ++
      [hexDigit (byte.toNat / 16), hexDigit (byte.toNat % 16)]

end Uuid128

/-- The identity domains, which never mix. -/
inductive IdentityDomain where
  | checkpoint
  | session
  | attempt
  | workload
  | command

/-- An identity of one domain. -/
structure StrongId (domain : IdentityDomain) where
  value : Uuid128
deriving DecidableEq

namespace StrongId

variable {domain : IdentityDomain}

/-- The default-constructed identity. -/
def nil : StrongId domain := ⟨Uuid128.nil⟩

def isNil (identity : StrongId domain) : Bool := identity.value.isNil

def toText (identity : StrongId domain) : Text := identity.value.toText

end StrongId

abbrev CheckpointId := StrongId .checkpoint
abbrev SessionId := StrongId .session
abbrev TransferAttemptId := StrongId .attempt
abbrev WorkloadId := StrongId .workload
abbrev CommandId := StrongId .command

/-- The 32-bit scalar domains. -/
inductive ScalarDomain where
  | shardIndex
  | waveIndex
  | pathClass

/-- A 32-bit scalar of one domain. -/
structure StrongScalar (domain : ScalarDomain) where
  value : UInt32
deriving DecidableEq

namespace StrongScalar

variable {domain : ScalarDomain}

instance : LT (StrongScalar domain) where
  lt left right := left.value < right.value

instance (left right : StrongScalar domain) : Decidable (left < right) :=
  inferInstanceAs (Decidable (left.value < right.value))

def toText (scalar : StrongScalar domain) : Text :=
  decimal scalar.value.toNat

end StrongScalar

abbrev ShardIndex := StrongScalar .shardIndex
abbrev WaveIndex := StrongScalar .waveIndex
abbrev PathClassId := StrongScalar .pathClass

/-- The fenced dimensions. -/
inductive GenerationDomain where
  | checkpoint
  | contract
  | topology
  | policy
  | attempt
  | incarnation
  | term

/-- A monotonic counter of one fenced dimension. -/
structure Generation (domain : GenerationDomain) where
  value : UInt64
deriving DecidableEq

namespace Generation

variable {domain : GenerationDomain}

instance : LT (Generation domain) where
  lt left right := left.value < right.value

instance (left right : Generation domain) : Decidable (left < right) :=
  inferInstanceAs (Decidable (left.value < right.value))

def isZero (generation : Generation domain) : Bool := generation.value == 0

end Generation

abbrev CheckpointGeneration := Generation .checkpoint
abbrev WorkloadContractGeneration := Generation .contract
abbrev TopologyGeneration := Generation .topology
abbrev PolicyGeneration := Generation .policy
abbrev AttemptSequence := Generation .attempt
abbrev IncarnationId := Generation .incarnation
abbrev EpochTerm := Generation .term

/-- Which process incarnation holds authority, and in which of its terms. -/
structure CoordinatorEpoch where
  incarnation : IncarnationId
  term : EpochTerm
deriving DecidableEq

namespace CoordinatorEpoch

/-- Epochs are compared by incarnation first, then by term. -/
instance : LT CoordinatorEpoch where
  lt left right :=
    left.incarnation < right.incarnation ∨
      left.incarnation = right.incarnation ∧ left.term < right.term

instance (left right : CoordinatorEpoch) : Decidable (left < right) :=
  inferInstanceAs
    (Decidable
      (left.incarnation < right.incarnation ∨
        left.incarnation = right.incarnation ∧ left.term < right.term))

end CoordinatorEpoch

/-! ## The 64-bit Mersenne twister -/

namespace MersenneTwister

/-- The seeding recurrence for the word at `index`. -/
def seedWord (index previous : UInt64) : UInt64 :=
  (6364136223846793005 : UInt64) *
    (previous ^^^ (previous >>> 62)) + index

/-- `count` seeded words, the first being `word` at position `index`. -/
def seedWords : Nat → UInt64 → UInt64 → List UInt64
  | 0, _, _ => []
  | count + 1, index, word =>
      word :: seedWords count (index + 1) (seedWord (index + 1) word)

/-- The twist recurrence on the words at distance 312, 311 and 156. -/
def twist (oldest next middle : UInt64) : UInt64 :=
  let joined :=
    (oldest &&& 0xFFFFFFFF80000000) ||| (next &&& 0x7FFFFFFF)
  middle ^^^ (joined >>> 1) ^^^
    (if joined &&& 1 = 0 then 0 else 0xB5026F5AA96619E9)

/-- Slide the window of the last 312 words by one. -/
def slide (window : List UInt64) : List UInt64 :=
  window.tail ++
    [twist (window.getD 0 0) (window.getD 1 0) (window.getD 156 0)]

def slides : Nat → List UInt64 → List UInt64
  | 0, window => window
  | count + 1, window => slides count (slide window)

/-- The output transformation. -/
def temper (word : UInt64) : UInt64 :=
  let first := word ^^^ ((word >>> 29) &&& 0x5555555555555555)
  let second := first ^^^ ((first <<< 17) &&& 0x71D67FFFEDA60000)
  let third := second ^^^ ((second <<< 37) &&& 0xFFF7EEE000000000)
  third ^^^ (third >>> 43)

/-- The output at `position` of `std::mt19937_64` seeded with `seed`. -/
def output (seed : UInt64) (position : Nat) : UInt64 :=
  temper ((slides (position + 1) (seedWords 312 0 seed)).getD 311 0)

end MersenneTwister

/-! ## The identity source -/

/-- `IdFactory`: the seed of the generator and how often it was used. -/
structure IdFactory where
  seed : UInt64
  drawn : Nat
deriving DecidableEq

namespace IdFactory

/-- Two outputs, marked as a version 4 identity of the RFC 4122 variant. -/
def assemble (high low : UInt64) : Uuid128 where
  bytes :=
    (((bigEndian64 high ++ bigEndian64 low).modify 6
      (fun byte => (byte &&& 0x0F) ||| 0x40)).modify 8
        (fun byte => (byte &&& 0x3F) ||| 0x80))
  size := by
    simp [bigEndian64]

/-- The `index`-th identity drawn from a source with the given seed. -/
def identity (seed : UInt64) (index : Nat) : Uuid128 :=
  assemble
    (MersenneTwister.output seed (2 * index))
    (MersenneTwister.output seed (2 * index + 1))

/-- `IdFactory::next`. -/
def next (factory : IdFactory) : Uuid128 × IdFactory :=
  (identity factory.seed factory.drawn,
    { factory with drawn := factory.drawn + 1 })

end IdFactory

example : MersenneTwister.output 5489 0 = 14514284786278117030 := by
  decide +kernel

end TrafficFabric
