import TrafficFabric.Engine.Execution

/-!
# Byte buckets

The ledger moves bytes between seven buckets, kept per session and in the
aggregate; the sessions evicted so far keep theirs in the pruned totals.
-/

namespace TrafficFabric

open Foundation

/-- The places an authorised byte can be counted in. -/
inductive Bucket where
  | admitted
  | transferred
  | verified
  | cancelled
  | wasted
  | unproven
  | outstanding
deriving DecidableEq

def AccountingSnapshot.bytesIn (accounting : AccountingSnapshot) :
    Bucket → UInt64
  | .admitted => accounting.bytesAdmitted
  | .transferred => accounting.bytesTransferred
  | .verified => accounting.bytesVerified
  | .cancelled => accounting.bytesCancelled
  | .wasted => accounting.bytesWasted
  | .unproven => accounting.bytesUnproven
  | .outstanding => accounting.grantedOutstandingBytes

def SessionRecord.bytesIn (session : SessionRecord) : Bucket → UInt64
  | .admitted => session.admittedBytes
  | .transferred => session.transferredBytes
  | .verified => session.verifiedBytes
  | .cancelled => session.cancelledBytes
  | .wasted => session.wastedBytes
  | .unproven => session.unprovenBytes
  | .outstanding => session.outstandingBytes

/-- Evicted sessions count nothing outstanding. -/
def PrunedTotals.bytesIn (pruned : PrunedTotals) : Bucket → UInt64
  | .admitted => pruned.admitted
  | .transferred => pruned.transferred
  | .verified => pruned.verified
  | .cancelled => pruned.cancelled
  | .wasted => pruned.wasted
  | .unproven => pruned.unproven
  | .outstanding => 0

/-- The bytes of one bucket summed over the session table. -/
def Engine.sessionBytes (engine : Engine) (bucket : Bucket) : Nat :=
  engine.sessions.total (fun session => (session.bytesIn bucket).toNat)

end TrafficFabric
