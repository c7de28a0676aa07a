import TrafficFabric.Domain
import TrafficFabric.Foundation.Table

/-!
# Integer rate shaping

`src/shaper.hpp` and `src/shaper.cpp`: token buckets per isolation class and
per workload, and rate reservations per path class.
-/

namespace TrafficFabric

open Foundation

/-! ## Token buckets -/

/-- Nanoseconds in a second, as the unsigned divisor of the shaper. -/
def nanosPerSecondU64 : UInt64 := 1000000000

/-- Bytes accrued over an interval, which is clamped to one second. -/
def refillBytes (rateBps : UInt64) (elapsedNs : Nanos) : UInt64 :=
  if rateBps = 0 ∨ elapsedNs ≤ 0 then 0
  else
    let elapsed := (min elapsedNs nanosPerSecond).toUInt64
    let whole := rateBps / nanosPerSecondU64
    let remainder := rateBps % nanosPerSecondU64
    whole * elapsed + remainder * elapsed / nanosPerSecondU64

/-- Capacity of a burst window, at least ten milliseconds' worth. -/
def burstCapacity (rateBps : UInt64) (burstWindowNs : Nanos) : UInt64 :=
  if rateBps = 0 ∨ burstWindowNs ≤ 0 then 0
  else
    let window := burstWindowNs.toUInt64
    let whole := rateBps / nanosPerSecondU64
    let remainder := rateBps % nanosPerSecondU64
    let capacity :=
      whole * window + remainder * window / nanosPerSecondU64
    let floorCapacity := rateBps / 100
    if capacity < floorCapacity then floorCapacity else capacity

/-- A token bucket in bytes. -/
structure TokenBucket where
  rateBps : UInt64 := 0
  capacityBytes : UInt64 := 0
  tokens : UInt64 := 0
  lastNs : Nanos := 0
  configured : Bool := false
deriving DecidableEq

namespace TokenBucket

/-- `TokenBucket::configure`: a full bucket with the given rate. -/
def configure
    (rateBps burstWindowNs : UInt64) (now : Nanos) : TokenBucket where
  rateBps := rateBps
  capacityBytes := burstCapacity rateBps burstWindowNs.toInt64
  tokens := burstCapacity rateBps burstWindowNs.toInt64
  lastNs := now
  configured := true

def refill (bucket : TokenBucket) (now : Nanos) : TokenBucket :=
  if ¬ bucket.configured ∨ now ≤ bucket.lastNs then bucket
  else
    let accrued := refillBytes bucket.rateBps (now - bucket.lastNs)
    if accrued = 0 then { bucket with lastNs := now }
    else if bucket.capacityBytes ≤ bucket.tokens ∨
        bucket.capacityBytes - bucket.tokens ≤ accrued then
      { bucket with lastNs := now, tokens := bucket.capacityBytes }
    else
      { bucket with lastNs := now, tokens := bucket.tokens + accrued }

def tryConsume (bucket : TokenBucket) (now : Nanos) (bytes : UInt64) :
    Bool × TokenBucket :=
  let refilled := bucket.refill now
  if refilled.tokens < bytes then (false, refilled)
  else (true, { refilled with tokens := refilled.tokens - bytes })

def release (bucket : TokenBucket) (bytes : UInt64) : TokenBucket :=
  if bucket.capacityBytes ≤ bucket.tokens ∨
      bucket.capacityBytes - bucket.tokens ≤ bytes then
    { bucket with tokens := bucket.capacityBytes }
  else { bucket with tokens := bucket.tokens + bytes }

/-- Estimate of the time until the requested bytes are available. -/
def timeUntil (bucket : TokenBucket) (bytes : UInt64) : Nanos :=
  if ¬ bucket.configured ∨ bucket.rateBps = 0 then 0
  else
    let missing := if bucket.tokens < bytes then bytes - bucket.tokens else 0
    if missing = 0 then 0
    else (missing * nanosPerSecondU64 / bucket.rateBps).toInt64 + 1

end TokenBucket

/-! ## The fabric-wide shaper -/

/-- The answer of the shaper to a request for bytes. -/
structure ShaperVerdict where
  admitted : Bool := false
  reason : ReasonCode := .admitted
  retryAfter : Nanos := 0
  detail : Text := []
deriving DecidableEq

structure RateShaper where
  classes : Table IsolationClass TokenBucket := ∅
  workloads : Table WorkloadId TokenBucket := ∅
  pathReservations : Table UInt32 UInt64 := ∅

namespace RateShaper

def configureClass (shaper : RateShaper) (isolation : IsolationClass)
    (ceilingBps : UInt64) (burstWindowNs : Nanos) (now : Nanos) :
    RateShaper :=
  { shaper with
    classes := shaper.classes.insert isolation
      (TokenBucket.configure ceilingBps burstWindowNs.toUInt64 now) }

def configureWorkload (shaper : RateShaper) (workload : WorkloadId)
    (ceilingBps : UInt64) (burstWindowNs : Nanos) (now : Nanos) :
    RateShaper :=
  { shaper with
    workloads := shaper.workloads.insert workload
      (TokenBucket.configure ceilingBps burstWindowNs.toUInt64 now) }

def dropWorkload (shaper : RateShaper) (workload : WorkloadId) : RateShaper :=
  { shaper with workloads := shaper.workloads.erase workload }

/-- Reserve a rate on a path; `none` when the reservation would overflow. -/
def reservePathRate
    (shaper : RateShaper) (path : PathClassId) (rateBps : UInt64) :
    Option RateShaper :=
  match shaper.pathReservations.lookup path.value with
  | none =>
      some { shaper with
        pathReservations :=
          shaper.pathReservations.insert path.value rateBps }
  | some reserved =>
      if 18446744073709551615 - reserved < rateBps then none
      else
        some { shaper with
          pathReservations :=
            shaper.pathReservations.replace path.value (reserved + rateBps) }

def releasePathRate
    (shaper : RateShaper) (path : PathClassId) (rateBps : UInt64) :
    RateShaper :=
  match shaper.pathReservations.lookup path.value with
  | none => shaper
  | some reserved =>
      { shaper with
        pathReservations := shaper.pathReservations.replace path.value
          (if reserved ≤ rateBps then 0 else reserved - rateBps) }

def reservedPathRate (shaper : RateShaper) (path : PathClassId) : UInt64 :=
  shaper.pathReservations.findD path.value 0

/-- Refill the bucket of a class, if there is one. -/
def refillClass
    (shaper : RateShaper) (isolation : IsolationClass) (now : Nanos) :
    RateShaper :=
  match shaper.classes.lookup isolation with
  | none => shaper
  | some bucket =>
      { shaper with
        classes := shaper.classes.replace isolation (bucket.refill now) }

/-- Credit of a class at `now`, together with the refilled shaper. -/
def classTokensAt
    (shaper : RateShaper) (isolation : IsolationClass) (now : Nanos) :
    UInt64 × RateShaper :=
  let refilled := shaper.refillClass isolation now
  match refilled.classes.lookup isolation with
  | none => (0, refilled)
  | some bucket => (bucket.tokens, refilled)

/-- Credit of a workload at `now`, together with the refilled shaper. -/
def workloadTokensAt
    (shaper : RateShaper) (workload : WorkloadId) (now : Nanos) :
    UInt64 × RateShaper :=
  match shaper.workloads.lookup workload with
  | none => (0, shaper)
  | some bucket =>
      ((bucket.refill now).tokens,
        { shaper with
          workloads :=
            shaper.workloads.replace workload (bucket.refill now) })

def classTimeUntilAt
    (shaper : RateShaper) (isolation : IsolationClass)
    (bytes : UInt64) (now : Nanos) :
    Nanos × RateShaper :=
  let refilled := shaper.refillClass isolation now
  match refilled.classes.lookup isolation with
  | none => (0, refilled)
  | some bucket => (bucket.timeUntil bytes, refilled)

/-- `RateShaper::try_consume`: both buckets or neither. -/
def tryConsume
    (shaper : RateShaper) (isolation : IsolationClass)
    (workload : WorkloadId) (bytes : UInt64) (now : Nanos) :
    ShaperVerdict × RateShaper :=
  match shaper.classes.lookup isolation, shaper.workloads.lookup workload with
  | none, _ =>
      ({ reason := .classCeilingSaturated
         detail := ascii "no isolation-class envelope is configured" },
        shaper)
  | some classBucket, workloadEntry =>
      if ¬ classBucket.configured then
        ({ reason := .classCeilingSaturated
           detail := ascii "no isolation-class envelope is configured" },
          shaper)
      else
        match workloadEntry with
        | none =>
            ({ reason := .workloadCeilingSaturated
               detail := ascii "no workload envelope is configured" },
              shaper)
        | some workloadBucket =>
            if ¬ workloadBucket.configured then
              ({ reason := .workloadCeilingSaturated
                 detail := ascii "no workload envelope is configured" },
                shaper)
            else
              consumeBoth shaper isolation workload
                (classBucket.refill now) (workloadBucket.refill now)
                bytes now
where
  /-- Consumption once both buckets are found and refilled. -/
  consumeBoth (shaper : RateShaper) (isolation : IsolationClass)
      (workload : WorkloadId) (classBucket workloadBucket : TokenBucket)
      (bytes : UInt64) (now : Nanos) : ShaperVerdict × RateShaper :=
    let store (first second : TokenBucket) : RateShaper :=
      { shaper with
        classes := shaper.classes.replace isolation first
        workloads := shaper.workloads.replace workload second }
    if classBucket.tokens < bytes then
      ({ reason := .classCeilingSaturated
         retryAfter := now + classBucket.timeUntil bytes
         detail := ascii "isolation-class ceiling has no credit" },
        store classBucket workloadBucket)
    else if workloadBucket.tokens < bytes then
      ({ reason := .workloadCeilingSaturated
         retryAfter := now + workloadBucket.timeUntil bytes
         detail := ascii "workload ceiling has no credit" },
        store classBucket workloadBucket)
    else
      let first := classBucket.tryConsume now bytes
      let second := workloadBucket.tryConsume now bytes
      if ¬ first.1 ∨ ¬ second.1 then
        ({ reason := .creditUnavailable
           detail :=
            ascii "credit accounting disagreed at consumption time" },
          store first.2 second.2)
      else
        ({ admitted := true, reason := .admitted },
          store first.2 second.2)

/-- `RateShaper::release`: what was authorised and not used goes back. -/
def release
    (shaper : RateShaper) (isolation : IsolationClass)
    (workload : WorkloadId) (bytes : UInt64) (now : Nanos) : RateShaper :=
  let returned (bucket : TokenBucket) : TokenBucket :=
    (bucket.refill now).release bytes
  { shaper with
    classes :=
      match shaper.classes.lookup isolation with
      | none => shaper.classes
      | some bucket => shaper.classes.replace isolation (returned bucket)
    workloads :=
      match shaper.workloads.lookup workload with
      | none => shaper.workloads
      | some bucket => shaper.workloads.replace workload (returned bucket) }

/-! ## Buckets and reservations are apart -/

section Reservations

variable (shaper : RateShaper)

@[simp]
theorem refillClass_reservations (isolation : IsolationClass) (now : Nanos) :
    (shaper.refillClass isolation now).pathReservations =
      shaper.pathReservations := by
  unfold refillClass
  split <;> rfl

@[simp]
theorem classTokensAt_reservations
    (isolation : IsolationClass) (now : Nanos) :
    (shaper.classTokensAt isolation now).2.pathReservations =
      shaper.pathReservations := by
  unfold classTokensAt
  dsimp only
  split <;> exact shaper.refillClass_reservations isolation now

@[simp]
theorem classTimeUntilAt_reservations
    (isolation : IsolationClass) (bytes : UInt64) (now : Nanos) :
    (shaper.classTimeUntilAt isolation bytes now).2.pathReservations =
      shaper.pathReservations := by
  unfold classTimeUntilAt
  dsimp only
  split <;> exact shaper.refillClass_reservations isolation now

@[simp]
theorem tryConsume_reservations
    (isolation : IsolationClass) (workload : WorkloadId) (bytes : UInt64)
    (now : Nanos) :
    (shaper.tryConsume isolation workload bytes now).2.pathReservations =
      shaper.pathReservations := by
  unfold tryConsume
  repeat' split
  all_goals first
    | rfl
    | unfold tryConsume.consumeBoth
      dsimp only
      repeat' split
      all_goals rfl

end Reservations

end RateShaper

end TrafficFabric
