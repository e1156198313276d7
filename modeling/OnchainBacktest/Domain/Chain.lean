import OnchainBacktest.Lib.Checked
import OnchainBacktest.Domain.Faults

/-!
# Chain positions

The position schema `block32-transaction32-v1`: a boundary of the chain is one 64-bit number, the
block in its high word and the transaction index plus one in its low word.  The index `-1` is the
boundary of the block itself, before its first transaction.

`ChainPosition` carries its bounds, so its `boundaryOrdinal` never fails, is injective on block and
transaction, and orders positions as the chain does.
-/

set_option autoImplicit false

namespace OnchainBacktest

open Checked

def UINT32_SIZE : Nat := 2 ^ 32

def UINT32_MAX : Nat := 2 ^ 32 - 1

def UINT64_MAX : Nat := 2 ^ 64 - 1

/-- Exact chain identity, `family:immutable-chain-reference`. -/
structure NetworkId where
  value : String
  deriving DecidableEq, Repr

/-- Versioned interpretation of chain-position coordinates. -/
structure PositionSchemaId where
  value : String
  deriving DecidableEq, Repr

/-- The one schema the runtime interprets. -/
def BLOCK32_TRANSACTION32_POSITION_SCHEMA_ID : PositionSchemaId := ⟨"block32-transaction32-v1"⟩

/-! ## Boundaries -/

/-- One historical boundary, encoded. -/
def boundaryOrdinal (blockOrdinal : Nat) (transactionIndex : Int) : Nat :=
  blockOrdinal * 2 ^ 32 + (transactionIndex + 1).toNat

/-- A boundary, decoded into block and transaction index. -/
def boundaryCoordinates (value : Nat) : Nat × Int :=
  (value / 2 ^ 32, (value % 2 ^ 32 : Nat) - 1)

/-- Exact event position on one network and position schema. -/
structure ChainPosition where
  networkId : NetworkId
  positionSchemaId : PositionSchemaId
  blockOrdinal : Nat
  transactionIndex : Int
  eventIndex : Option Nat
  schema_supported : positionSchemaId = BLOCK32_TRANSACTION32_POSITION_SCHEMA_ID
  block_le : blockOrdinal ≤ UINT32_MAX
  neg_one_le : -1 ≤ transactionIndex
  transaction_lt : transactionIndex < UINT32_MAX
  event_le : ∀ e ∈ eventIndex, e ≤ UINT32_MAX
  deriving DecidableEq

namespace ChainPosition

/-! What the checks say of the first transaction of a block, and of a position without event. -/

theorem first_ge : -1 ≤ (0 : Int) := by decide

theorem first_lt : (0 : Int) < UINT32_MAX := by decide

theorem eventless_le : ∀ e ∈ (none : Option Nat), e ≤ UINT32_MAX := by simp

/-- The constructor of a position, with its checks in the order the source makes them. -/
def make (networkId : NetworkId) (positionSchemaId : PositionSchemaId) (blockOrdinal : Nat)
    (transactionIndex : Int) (eventIndex : Option Nat) : Except Fault ChainPosition :=
  if h1 : positionSchemaId = BLOCK32_TRANSACTION32_POSITION_SCHEMA_ID then
    if h2 : blockOrdinal ≤ UINT32_MAX then
      if h3 : -1 ≤ transactionIndex then
        if h4 : transactionIndex < UINT32_MAX then
          if h5 : ∀ e ∈ eventIndex, e ≤ UINT32_MAX then
            .ok ⟨networkId, positionSchemaId, blockOrdinal, transactionIndex, eventIndex,
              h1, h2, h3, h4, h5⟩
          else .error (.overflow "event_index exceeds UInt32")
        else .error (.overflow
          "transaction_index exceeds block32-transaction32-v1 capacity")
      else .error (.value "transaction_index must be -1 or non-negative")
    else .error (.overflow "block_ordinal exceeds UInt32")
  else .error .unsupportedPositionSchema

/-- The boundary a position stands at. -/
def boundaryOrdinal (p : ChainPosition) : Nat :=
  OnchainBacktest.boundaryOrdinal p.blockOrdinal p.transactionIndex

/-- The position of a boundary, with no event in it. -/
def fromBoundaryOrdinal (networkId : NetworkId) (positionSchemaId : PositionSchemaId)
    (value : Nat) : Except Fault ChainPosition := do
  refuseIf (positionSchemaId ≠ BLOCK32_TRANSACTION32_POSITION_SCHEMA_ID)
    .unsupportedPositionSchema
  refuseIf (UINT64_MAX < value) (.overflow "boundary_ordinal exceeds UInt64")
  make networkId positionSchemaId (boundaryCoordinates value).1 (boundaryCoordinates value).2 none

/-- The same position with the event forgotten. -/
def withoutEvent (p : ChainPosition) : ChainPosition :=
  { p with eventIndex := none, event_le := eventless_le }

variable {networkId : NetworkId} {positionSchemaId : PositionSchemaId} {blockOrdinal : Nat}
  {transactionIndex : Int} {eventIndex : Option Nat}

/-- What a constructed position holds. -/
theorem make_eq_ok {p : ChainPosition}
    (h : make networkId positionSchemaId blockOrdinal transactionIndex eventIndex = .ok p) :
    p.networkId = networkId ∧ p.positionSchemaId = positionSchemaId ∧
      p.blockOrdinal = blockOrdinal ∧ p.transactionIndex = transactionIndex ∧
      p.eventIndex = eventIndex := by
  unfold make at h
  split at h <;> try cases h
  split at h <;> try cases h
  split at h <;> try cases h
  split at h <;> try cases h
  split at h <;> cases h
  exact ⟨rfl, rfl, rfl, rfl, rfl⟩

/-- A constructor never raises a clock error. -/
theorem make_ne_clock (code : TransactionClockErrorCode) :
    make networkId positionSchemaId blockOrdinal transactionIndex eventIndex
      ≠ .error (.transactionClock code) := by
  unfold make
  repeat' split
  all_goals simp

/-- The constructor gives back a position from its own coordinates. -/
theorem make_self (p : ChainPosition) :
    make p.networkId p.positionSchemaId p.blockOrdinal p.transactionIndex p.eventIndex = .ok p := by
  unfold make
  rw [dif_pos p.schema_supported, dif_pos p.block_le, dif_pos p.neg_one_le,
    dif_pos p.transaction_lt, dif_pos p.event_le]

@[ext] theorem ext_fields {p q : ChainPosition} (h1 : p.networkId = q.networkId)
    (h2 : p.blockOrdinal = q.blockOrdinal) (h3 : p.transactionIndex = q.transactionIndex)
    (h4 : p.eventIndex = q.eventIndex) : p = q := by
  have hs : p.positionSchemaId = q.positionSchemaId := by
    rw [p.schema_supported, q.schema_supported]
  cases p
  cases q
  simp_all

/-! ### The order of boundaries -/

theorem toNat_lt (p : ChainPosition) : (p.transactionIndex + 1).toNat < 2 ^ 32 := by
  have h1 := p.transaction_lt
  have h2 : UINT32_MAX = 2 ^ 32 - 1 := rfl
  omega

theorem boundaryOrdinal_le (p : ChainPosition) : p.boundaryOrdinal ≤ UINT64_MAX := by
  have h1 := p.toNat_lt
  have h2 := p.block_le
  have h3 : UINT32_MAX = 2 ^ 32 - 1 := rfl
  have h4 : UINT64_MAX = 2 ^ 64 - 1 := rfl
  simp only [boundaryOrdinal, OnchainBacktest.boundaryOrdinal]
  omega

/-- **A boundary determines its block and transaction.** -/
theorem boundaryOrdinal_inj {p q : ChainPosition} (h : p.boundaryOrdinal = q.boundaryOrdinal) :
    p.blockOrdinal = q.blockOrdinal ∧ p.transactionIndex = q.transactionIndex := by
  have h1 := p.toNat_lt
  have h2 := q.toNat_lt
  have h3 := p.neg_one_le
  have h4 := q.neg_one_le
  simp only [boundaryOrdinal, OnchainBacktest.boundaryOrdinal] at h
  omega

/-- Boundaries are ordered by block, then by transaction. -/
theorem boundaryOrdinal_lt_iff {p q : ChainPosition} :
    p.boundaryOrdinal < q.boundaryOrdinal ↔ p.blockOrdinal < q.blockOrdinal ∨
      (p.blockOrdinal = q.blockOrdinal ∧ p.transactionIndex < q.transactionIndex) := by
  have h1 := p.toNat_lt
  have h2 := q.toNat_lt
  have h3 := p.neg_one_le
  have h4 := q.neg_one_le
  simp only [boundaryOrdinal, OnchainBacktest.boundaryOrdinal]
  omega

@[simp] theorem withoutEvent_boundaryOrdinal (p : ChainPosition) :
    p.withoutEvent.boundaryOrdinal = p.boundaryOrdinal := rfl

@[simp] theorem withoutEvent_blockOrdinal (p : ChainPosition) :
    p.withoutEvent.blockOrdinal = p.blockOrdinal := rfl

@[simp] theorem withoutEvent_transactionIndex (p : ChainPosition) :
    p.withoutEvent.transactionIndex = p.transactionIndex := rfl

@[simp] theorem withoutEvent_networkId (p : ChainPosition) :
    p.withoutEvent.networkId = p.networkId := rfl

@[simp] theorem withoutEvent_eventIndex (p : ChainPosition) :
    p.withoutEvent.eventIndex = none := rfl

/-- The coordinates of an encoded boundary are the ones it was encoded from. -/
theorem boundaryCoordinates_boundaryOrdinal (p : ChainPosition) :
    boundaryCoordinates p.boundaryOrdinal = (p.blockOrdinal, p.transactionIndex) := by
  have h1 := p.toNat_lt
  have h2 := p.neg_one_le
  simp only [boundaryCoordinates, boundaryOrdinal, OnchainBacktest.boundaryOrdinal,
    Prod.mk.injEq]
  omega

/-- **Decoding a boundary gives back the position, with its event forgotten.** -/
theorem fromBoundaryOrdinal_boundaryOrdinal (p : ChainPosition) :
    fromBoundaryOrdinal p.networkId p.positionSchemaId p.boundaryOrdinal
      = .ok p.withoutEvent := by
  unfold fromBoundaryOrdinal
  rw [refuseIf_of_not (by simpa using p.schema_supported),
    refuseIf_of_not (by simpa using p.boundaryOrdinal_le), boundaryCoordinates_boundaryOrdinal]
  exact make_self p.withoutEvent

/-- A decoded position stands at the boundary it was decoded from, outside any event. -/
theorem fromBoundaryOrdinal_eq_ok {value : Nat} {p : ChainPosition}
    (h : fromBoundaryOrdinal networkId positionSchemaId value = .ok p) :
    p.networkId = networkId ∧ p.eventIndex = none ∧ p.boundaryOrdinal = value := by
  obtain ⟨_, h⟩ := check_bind_eq_ok.mp h
  obtain ⟨_, h⟩ := check_bind_eq_ok.mp h
  obtain ⟨h1, _, h2, h3, h4⟩ := make_eq_ok h
  refine ⟨h1, h4, ?_⟩
  rw [boundaryOrdinal, OnchainBacktest.boundaryOrdinal, h2, h3]
  simp only [boundaryCoordinates]
  omega

end ChainPosition

end OnchainBacktest
