import TrafficFabric.Accrual
import TrafficFabric.Engine.Terms

/-!
# The capacity of a burst

`burst_capacity` multiplies the two parts of a rate by the length of the burst
window in 64-bit words, and the window of a class is converted to a signed
number on the way.  Workloads have a window of a tenth of a second, for which
nothing wraps; the window of a class is any positive word.
-/

namespace TrafficFabric

open Foundation

/-- The capacity over the unbounded integers. -/
def exactBurst (rateBps windowNs : Nat) : Nat :=
  max (accrual rateBps windowNs) (rateBps / 100)

/-- The window keeps its sign, and the words of `burst_capacity` hold their
products. -/
structure BurstFits (rateBps windowNs : Nat) : Prop where
  signed : windowNs < 2 ^ 63
  remainder : rateBps % 1000000000 * windowNs < 2 ^ 64
  capacity : accrual rateBps windowNs < 2 ^ 64

theorem pos_toInt64_iff {word : UInt64} :
    0 < word.toInt64 ↔ 0 < word.toNat ∧ word.toNat < 2 ^ 63 := by
  rw [Int64.lt_iff_toInt_lt]
  change (0 : Int) < word.toBitVec.toInt ↔ _
  have cases_ := BitVec.toInt_eq_toNat_cond word.toBitVec
  have same : word.toNat = word.toBitVec.toNat := rfl
  have bounded := word.toBitVec.isLt
  split at cases_ <;> omega

/-- What `burst_capacity` computes, wrapping included. -/
theorem toNat_burstCapacity
    (rateBps : UInt64) {window : UInt64} (positive : 0 < window.toInt64) :
    (burstCapacity rateBps window.toInt64).toNat =
      max
        ((rateBps.toNat / 1000000000 * window.toNat +
            rateBps.toNat % 1000000000 * window.toNat % 2 ^ 64 /
              1000000000) % 2 ^ 64)
        (rateBps.toNat / 100) := by
  unfold burstCapacity
  by_cases idle : rateBps = 0
  · subst idle
    rw [if_pos (.inl rfl)]
    simp
  rw [if_neg (not_or.mpr ⟨idle, Int64.not_le.mpr positive⟩)]
  dsimp only
  rw [UInt64.toUInt64_toInt64]
  have word :
      (rateBps / nanosPerSecondU64 * window +
          rateBps % nanosPerSecondU64 * window / nanosPerSecondU64).toNat =
        (rateBps.toNat / 1000000000 * window.toNat +
          rateBps.toNat % 1000000000 * window.toNat % 2 ^ 64 /
            1000000000) % 2 ^ 64 := by
    rw [UInt64.toNat_add, UInt64.toNat_mul, UInt64.toNat_div,
      UInt64.toNat_div, UInt64.toNat_mul, UInt64.toNat_mod]
    change (rateBps.toNat / 1000000000 * window.toNat % 2 ^ 64 +
      rateBps.toNat % 1000000000 * window.toNat % 2 ^ 64 / 1000000000) %
        2 ^ 64 = _
    rw [Nat.mod_add_mod]
  have least : (rateBps / 100).toNat = rateBps.toNat / 100 :=
    UInt64.toNat_div _ _
  generalize
    rateBps / nanosPerSecondU64 * window +
      rateBps % nanosPerSecondU64 * window / nanosPerSecondU64 = computed
    at word
  split
  · rename_i below
    have := UInt64.lt_iff_toNat_lt.mp below
    omega
  · rename_i enough
    have := UInt64.le_iff_toNat_le.mp (UInt64.not_lt.mp enough)
    omega

/-- The capacity is exact where nothing wraps, and nowhere else. -/
theorem burstCapacity_exact_iff
    {rateBps window : UInt64} (flows : rateBps ≠ 0) (open_ : window ≠ 0) :
    (burstCapacity rateBps window.toInt64).toNat =
        exactBurst rateBps.toNat window.toNat ↔
      BurstFits rateBps.toNat window.toNat := by
  have some_ : 0 < rateBps.toNat :=
    Nat.pos_of_ne_zero (fun zero => flows (UInt64.toNat_inj.mp zero))
  have wide : 0 < window.toNat :=
    Nat.pos_of_ne_zero (fun zero => open_ (UInt64.toNat_inj.mp zero))
  have split_ := accrual_split rateBps.toNat window.toNat
  by_cases signed : window.toNat < 2 ^ 63
  · rw [toNat_burstCapacity rateBps (pos_toInt64_iff.mpr ⟨wide, signed⟩)]
    unfold exactBurst
    have bounded := rateBps.toNat_lt
    constructor
    · intro same
      by_contra wraps
      by_cases fits : accrual rateBps.toNat window.toNat < 2 ^ 64
      · have overflow :
            2 ^ 64 ≤ rateBps.toNat % 1000000000 * window.toNat := by
          by_contra small
          exact wraps ⟨signed, Nat.not_le.mp small, fits⟩
        -- A remainder that wraps takes a window of many seconds.
        have long : 1000000000 ≤ window.toNat := by
          by_contra short
          have := Nat.mul_le_mul
            (Nat.le_of_lt (Nat.mod_lt rateBps.toNat
              (show 1000000000 > 0 by decide)))
            (Nat.le_of_lt (Nat.not_le.mp short))
          omega
        have above : rateBps.toNat ≤ accrual rateBps.toNat window.toNat := by
          unfold accrual
          rw [Nat.le_div_iff_mul_le (by decide)]
          exact Nat.mul_le_mul_left _ long
        generalize rateBps.toNat % 1000000000 * window.toNat = product
          at overflow same split_
        generalize rateBps.toNat / 1000000000 * window.toNat = whole
          at same split_
        omega
      · have := Nat.mod_lt
          (rateBps.toNat / 1000000000 * window.toNat +
            rateBps.toNat % 1000000000 * window.toNat % 2 ^ 64 / 1000000000)
          (show 2 ^ 64 > 0 by decide)
        omega
    · rintro ⟨_, remainder, capacity⟩
      rw [Nat.mod_eq_of_lt remainder, split_, Nat.mod_eq_of_lt capacity]
  · -- A window of 2^63 or more is negative once converted.
    refine iff_of_false ?_ (fun fits => signed fits.signed)
    have closed : window.toInt64 ≤ 0 := by
      rw [← Int64.not_lt, pos_toInt64_iff]
      exact fun both => signed both.2
    unfold burstCapacity
    rw [if_pos (.inr closed)]
    have positive : 0 < accrual rateBps.toNat window.toNat := by
      unfold accrual
      refine Nat.div_pos ?_ (by decide)
      exact le_trans (by omega)
        (Nat.le_mul_of_pos_left window.toNat some_)
    unfold exactBurst
    intro wrong
    have zero : (0 : UInt64).toNat = 0 := rfl
    omega

/--
The bucket that a valid envelope configures has the exact capacity exactly
when nothing wraps, and the bucket that a contract configures always has it.
-/
theorem burst_capacity_is_exact_iff
    (shaper : RateShaper) (now : Nanos) {policy : PolicySnapshot}
    (valid : validatePolicy policy = .ok ()) :
    (∀ envelope ∈ policy.envelopes,
      ((shaper.configureClass envelope.isolation envelope.ceilingBps
          envelope.burstWindowNs.toInt64 now).classes.lookup
            envelope.isolation).map
          (fun bucket => bucket.capacityBytes.toNat) =
          some (exactBurst envelope.ceilingBps.toNat
            envelope.burstWindowNs.toNat) ↔
        BurstFits envelope.ceilingBps.toNat envelope.burstWindowNs.toNat) ∧
    ∀ contract : WorkloadContract,
      ((shaper.configureWorkload contract.workload contract.ceilingBps
          workloadBurstWindow now).workloads.lookup contract.workload).map
          (fun bucket => bucket.capacityBytes.toNat) =
        some (exactBurst contract.ceilingBps.toNat 100000000) := by
  constructor
  · intro envelope member
    obtain ⟨flows, open_⟩ := validatePolicy_positive valid member
    simp only [RateShaper.configureClass, AList.lookup_insert,
      Option.map_some, Option.some_inj]
    change (burstCapacity envelope.ceilingBps
      envelope.burstWindowNs.toInt64.toUInt64.toInt64).toNat = _ ↔ _
    rw [UInt64.toUInt64_toInt64]
    exact burstCapacity_exact_iff flows open_
  · intro contract
    simp only [RateShaper.configureWorkload, AList.lookup_insert,
      Option.map_some, Option.some_inj]
    change (burstCapacity contract.ceilingBps
      (100000000 : UInt64).toInt64).toNat = _
    by_cases idle : contract.ceilingBps = 0
    · unfold burstCapacity
      rw [if_pos (.inl idle), idle]
      simp [exactBurst, accrual]
    · refine (burstCapacity_exact_iff idle (by decide)).mpr ⟨by decide, ?_, ?_⟩
      · have := Nat.mul_lt_mul_of_pos_right
          (Nat.mod_lt contract.ceilingBps.toNat
            (show 1000000000 > 0 by decide))
          (show 0 < (100000000 : UInt64).toNat by decide)
        exact lt_trans this (by decide)
      · have bounded := contract.ceilingBps.toNat_lt
        unfold accrual
        change contract.ceilingBps.toNat * 100000000 / 1000000000 < 2 ^ 64
        omega

/-- The first class of the sample deployment has its exact capacity. -/
theorem burst_capacity_is_exact_for_sample_policy :
    ∃ envelope ∈ (Sample.policy 1).envelopes,
      ((({} : RateShaper).configureClass envelope.isolation
          envelope.ceilingBps envelope.burstWindowNs.toInt64 0).classes.lookup
            envelope.isolation).map
          (fun bucket => bucket.capacityBytes.toNat) =
        some (exactBurst envelope.ceilingBps.toNat
          envelope.burstWindowNs.toNat) := by
  have valid : validatePolicy (Sample.policy 1) = .ok () := by
    decide +kernel
  refine ⟨_, List.mem_cons_self, ((burst_capacity_is_exact_iff {} 0 valid).1 _
    List.mem_cons_self).mpr ?_⟩
  exact ⟨by decide, by decide, by decide⟩

/-- A policy that gives a class a burst window of twenty seconds. -/
def widePolicy : PolicySnapshot where
  generation := ⟨1⟩
  envelopes :=
    [{ isolation := .trainingCritical, ceilingBps := 1000000000 },
      { isolation := .servingLatency, ceilingBps := 1000000000 },
      { isolation := .trainingBulk
        ceilingBps := 999999999
        burstWindowNs := 20000000000 },
      { isolation := .bestEffort, ceilingBps := 1000000000 }]

/-- Its bucket holds a thirteenth of the capacity. -/
theorem wide_window_wraps :
    validatePolicy widePolicy = .ok () ∧
      ((({} : RateShaper).configureClass .trainingBulk 999999999
          (20000000000 : UInt64).toInt64 0).classes.lookup
            .trainingBulk).map
          (fun bucket => bucket.capacityBytes.toNat) = some 1553255906 ∧
      exactBurst 999999999 20000000000 = 19999999980 := by
  decide +kernel

end TrafficFabric
