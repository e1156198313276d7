import Mathlib.Data.Prod.Lex
import OnchainBacktest.Domain.Intents

/-!
# Canonical market events

The history a replay runs over.  An event is an envelope and the fields of its kind; the envelope
says where the event stands, which transaction group it belongs to, and which two identities it
has: the canonical event identity, and the stable causal identity that breaks ties in the stream.

`canonicalEventSortKey` is the total order of a stream.
-/

set_option autoImplicit false

namespace OnchainBacktest

inductive OrderingFidelity
  | unknown
  | transactionPartial
  | transactionExact
  | instructionExact
  deriving DecidableEq, Repr

inductive VenueLifecycleKind
  | completed
  | migrated
  | closed
  deriving DecidableEq, Repr

/-- Where an event stands and what it is known as. -/
structure EventEnvelope where
  position : ChainPosition
  transactionGroupId : ContentDigest
  canonicalEventId : ContentDigest
  stableCausalId : ContentDigest
  protocol : String
  protocolVersion : String
  orderingFidelity : OrderingFidelity
  protocol_trimmed : nonemptyTrimmed protocol = true
  version_trimmed : nonemptyTrimmed protocolVersion = true
  exact_indexed : orderingFidelity = .transactionExact ∨ orderingFidelity = .instructionExact →
    position.eventIndex ≠ none

def EventEnvelope.boundaryOrdinal (e : EventEnvelope) : Nat := e.position.boundaryOrdinal

structure BlockEvent where
  envelope : EventEnvelope
  synthetic : envelope.position.transactionIndex = -1

/-- A launch whose chain transaction succeeded. -/
structure TokenLaunchEvent where
  envelope : EventEnvelope
  assetId : AssetId
  developerId : AccountId
  creationUserId : AccountId
  venueId : VenueId
  quoteAssetId : AssetId
  protocolPayloadSchema : ProtocolPayloadSchemaId
  protocolPayload : List UInt8
  assets_ne : assetId ≠ quoteAssetId

structure VenueTradeEvent where
  envelope : EventEnvelope
  venueId : VenueId
  soldAssetId : AssetId
  boughtAssetId : AssetId
  protocolPayloadSchema : ProtocolPayloadSchemaId
  protocolPayload : List UInt8
  assets_ne : soldAssetId ≠ boughtAssetId

structure VenueLifecycleEvent where
  envelope : EventEnvelope
  venueId : VenueId
  lifecycleKind : VenueLifecycleKind
  protocolPayloadSchema : ProtocolPayloadSchemaId
  protocolPayload : List UInt8

inductive CanonicalEvent
  | block (event : BlockEvent)
  | tokenLaunch (event : TokenLaunchEvent)
  | venueTrade (event : VenueTradeEvent)
  | venueLifecycle (event : VenueLifecycleEvent)

namespace CanonicalEvent

def envelope : CanonicalEvent → EventEnvelope
  | block e => e.envelope
  | tokenLaunch e => e.envelope
  | venueTrade e => e.envelope
  | venueLifecycle e => e.envelope

def boundaryOrdinal (e : CanonicalEvent) : Nat := e.envelope.boundaryOrdinal

/-- The event index, `-1` for none. -/
def eventIndexKey (e : CanonicalEvent) : Int :=
  match e.envelope.position.eventIndex with
  | none => -1
  | some index => index

end CanonicalEvent

/-- The physical order of a stream, its chain identity apart: boundary, group, event index and
stable causal identity. -/
def canonicalEventSortKey (e : CanonicalEvent) : Nat ×ₗ Nat ×ₗ Int ×ₗ Nat :=
  toLex (e.boundaryOrdinal, toLex (e.envelope.transactionGroupId.hex.val,
    toLex (e.eventIndexKey, e.envelope.stableCausalId.hex.val)))

end OnchainBacktest
