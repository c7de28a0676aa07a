import TrafficFabric.Text
import TrafficFabric.Foundation.Results

/-!
# Error taxonomy and results

`include/ctf/status.hpp`.  A function returning `Status` becomes a
computation of `Result Unit`; the success status is `Except.ok ()`, so the
code `Ok` never labels a failure.
-/

namespace TrafficFabric

/-- The refusal codes. -/
inductive ErrorCode where
  | invalidArgument
  | invalidSyntax
  | outOfRange
  | payloadTooLarge
  | collectionTooLarge
  | stringTooLong
  | invalidUtf8
  | nonCanonicalEncoding
  | trailingGarbage
  | unknownMessageType
  | unsupportedValue
  | missingField
  | duplicateIdentity
  | integrityFailure
  | truncatedInput
  | versionIncompatible
  | corruptState
  | impossibleState
  | staleEpoch
  | foreignEpoch
  | stalePolicyGeneration
  | staleTopologyGeneration
  | staleContractGeneration
  | staleCheckpointGeneration
  | staleAttempt
  | staleEvidence
  | superseded
  | replayDetected
  | notAuthorized
  | revalidationRequired
  | sequenceViolation
  | notFound
  | alreadyExists
  | invalidStateTransition
  | capacityExceeded
  | resourceExhausted
  | shuttingDown
  | notReady
  | deferred
  | denied
  | deadlineUnreachable
  | verificationMismatch
  | cancelled
  | ambiguousOutcome
  | envelopeExhausted
  | notDurable
  | ioFailure
  | peerClosed
  | connectionRefused
  | unsupported
  | internal
  | accountingImbalance
deriving DecidableEq

/-- A refusal: its stable code and its explanation. -/
structure Status where
  code : ErrorCode
  detail : Text
deriving DecidableEq

/-- `Status::error` with a literal explanation. -/
def Status.error (code : ErrorCode) (detail : String) : Status :=
  ⟨code, ascii detail⟩

/-- The stable name of a code. -/
def ErrorCode.name : ErrorCode → String
  | .invalidArgument => "InvalidArgument"
  | .invalidSyntax => "InvalidSyntax"
  | .outOfRange => "OutOfRange"
  | .payloadTooLarge => "PayloadTooLarge"
  | .collectionTooLarge => "CollectionTooLarge"
  | .stringTooLong => "StringTooLong"
  | .invalidUtf8 => "InvalidUtf8"
  | .nonCanonicalEncoding => "NonCanonicalEncoding"
  | .trailingGarbage => "TrailingGarbage"
  | .unknownMessageType => "UnknownMessageType"
  | .unsupportedValue => "UnsupportedValue"
  | .missingField => "MissingField"
  | .duplicateIdentity => "DuplicateIdentity"
  | .integrityFailure => "IntegrityFailure"
  | .truncatedInput => "TruncatedInput"
  | .versionIncompatible => "VersionIncompatible"
  | .corruptState => "CorruptState"
  | .impossibleState => "ImpossibleState"
  | .staleEpoch => "StaleEpoch"
  | .foreignEpoch => "ForeignEpoch"
  | .stalePolicyGeneration => "StalePolicyGeneration"
  | .staleTopologyGeneration => "StaleTopologyGeneration"
  | .staleContractGeneration => "StaleContractGeneration"
  | .staleCheckpointGeneration => "StaleCheckpointGeneration"
  | .staleAttempt => "StaleAttempt"
  | .staleEvidence => "StaleEvidence"
  | .superseded => "Superseded"
  | .replayDetected => "ReplayDetected"
  | .notAuthorized => "NotAuthorized"
  | .revalidationRequired => "RevalidationRequired"
  | .sequenceViolation => "SequenceViolation"
  | .notFound => "NotFound"
  | .alreadyExists => "AlreadyExists"
  | .invalidStateTransition => "InvalidStateTransition"
  | .capacityExceeded => "CapacityExceeded"
  | .resourceExhausted => "ResourceExhausted"
  | .shuttingDown => "ShuttingDown"
  | .notReady => "NotReady"
  | .deferred => "Deferred"
  | .denied => "Denied"
  | .deadlineUnreachable => "DeadlineUnreachable"
  | .verificationMismatch => "VerificationMismatch"
  | .cancelled => "Cancelled"
  | .ambiguousOutcome => "AmbiguousOutcome"
  | .envelopeExhausted => "EnvelopeExhausted"
  | .notDurable => "NotDurable"
  | .ioFailure => "IoFailure"
  | .peerClosed => "PeerClosed"
  | .connectionRefused => "ConnectionRefused"
  | .unsupported => "Unsupported"
  | .internal => "Internal"
  | .accountingImbalance => "AccountingImbalance"

/-- `Status::to_string`: the code, then the detail unless it is empty. -/
def Status.toText (status : Status) : Text :=
  ascii status.code.name ++
    (if status.detail = [] then [] else ascii ": " ++ status.detail)

/-- The outcome of an operation that produces a value. -/
abbrev Result (Value : Type) := Except Status Value

end TrafficFabric
