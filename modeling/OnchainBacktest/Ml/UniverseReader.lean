import OnchainBacktest.Domain.Identifiers
import OnchainBacktest.Lib.Checked
import OnchainBacktest.Ml.NumpySearch

/-!
# Point-in-time membership

A universe holds the intervals in which its entities are eligible, in parallel arrays that are
checked when they are opened.  A membership is looked up with three binary searches: two for the
rows of an entity, and one, among their starts, for the last interval that has begun.
-/

set_option autoImplicit false

namespace OnchainBacktest

namespace Ml

open Checked

structure MembershipRow where
  entityId : Nat
  eligibleFrom : Nat
  eligibleUntil : Nat
  inputAvailableBoundary : Nat
  deriving DecidableEq

/-- Intervals are point in time, and those of one entity are in order. -/
structure Universe where
  universeId : ContentDigest
  rows : List MembershipRow
  point_in_time : ∀ row ∈ rows, row.eligibleFrom < row.eligibleUntil ∧
    row.inputAvailableBoundary ≤ row.eligibleFrom
  ordered : rows.Pairwise fun a b =>
    a.entityId < b.entityId ∨ (a.entityId = b.entityId ∧ a.eligibleUntil ≤ b.eligibleFrom)

/-! ## Validation -/

/-- `NumpyMlArtifactFormatError`. -/
structure FormatError where
  message : String
  deriving DecidableEq

/-- The digest of the rows of an artifact as a stream. -/
class LogicalStreamHash where
  contentDigest : List MembershipRow → ContentDigest

/-- What `_validate_arrays` reads. -/
structure UniverseArrays where
  rows : List MembershipRow
  maximumInputAvailableBoundary : Nat
  logicalContentHash : ContentDigest

/-- One row of the loop, after the row before it. -/
def validateRow (previous : Option MembershipRow) (row : MembershipRow) :
    Except FormatError (Option MembershipRow) := do
  refuseIf (row.eligibleUntil ≤ row.eligibleFrom ∨ row.eligibleFrom < row.inputAvailableBoundary)
    ⟨"Universe interval is not point-in-time valid"⟩
  refuseIf (∃ before ∈ previous, row.entityId < before.entityId ∨
      (row.entityId = before.entityId ∧ row.eligibleFrom < before.eligibleUntil))
    ⟨"Universe intervals are unordered or overlap"⟩
  .ok (some row)

/-- `_validate_arrays`. -/
def validateArrays [LogicalStreamHash] (arrays : UniverseArrays) : Except FormatError Unit := do
  let _ ← arrays.rows.foldlM validateRow none
  refuseIf (arrays.maximumInputAvailableBoundary
      ≠ (arrays.rows.map MembershipRow.inputAvailableBoundary).foldl max 0)
    ⟨"Universe maximum availability is inconsistent"⟩
  refuseIf (LogicalStreamHash.contentDigest arrays.rows ≠ arrays.logicalContentHash)
    ⟨"ML logical stream hash mismatch"⟩

/-! ## Lookup -/

/-- What the last test of a lookup asks of a row. -/
def MembershipRow.answers (row : MembershipRow) (boundary : Nat) : Bool :=
  boundary < row.eligibleUntil && row.inputAvailableBoundary ≤ boundary

/-- The answer for a position among the rows from `left` on: the row before it decides. -/
def answerAt (rows : List MembershipRow) (left boundary : Nat) : Nat → Bool
  | 0 => false
  | count + 1 => rows[left + count]?.any fun row => row.answers boundary

section Lookup

variable [NumpySearch]

/-- The lookup in the arrays: the last interval of the entity that begins at or before the boundary
holds it. -/
def lookup (rows : List MembershipRow) (entityId boundary : Nat) : Bool :=
  let entities := rows.map MembershipRow.entityId
  let left := searchsorted entities entityId .left
  let right := searchsorted entities entityId .right
  let starts := ((rows.map MembershipRow.eligibleFrom).drop left).take (right - left)
  if left = right then false
  else answerAt rows left boundary (searchsorted starts boundary .right)

/-- `NumpyUniverseReader.contains`. -/
def readerContains (rows : List MembershipRow) (entityId boundaryOrdinal : Int) :
    Except Fault Bool := do
  refuseIf (entityId < 0 ∨ boundaryOrdinal < 0)
    (.value "universe coordinates must be non-negative")
  .ok (lookup rows entityId.toNat boundaryOrdinal.toNat)

/-- The lookup of a boundary in a universe, at coordinates that are not negative. -/
def Universe.contains (members : Universe) (entityId boundary : Nat) : Bool :=
  lookup members.rows entityId boundary

end Lookup

end Ml

end OnchainBacktest
