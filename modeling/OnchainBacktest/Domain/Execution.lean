import Mathlib.Data.Prod.Lex
import Mathlib.Data.String.Basic
import OnchainBacktest.Domain.Intents

/-!
# Swap orders and their execution

The order of a swap-trading strategy, and what a venue answers to it: a plan of fills, ledger
postings and a change of the venue, or a rejection with a code.  A plan has a fill and two postings
at least and fills no order twice.
-/

set_option autoImplicit false

namespace OnchainBacktest

open Checked

/-- An order to sell an exact amount. -/
structure SwapExactInIntent where
  orderId : ContentDigest
  poolId : PoolId
  soldAssetId : AssetId
  boughtAssetId : AssetId
  amountInAtomic : Nat
  minimumAmountOutAtomic : Nat
  createdBoundaryOrdinal : Nat
  assets_ne : soldAssetId ≠ boughtAssetId
  amount_pos : 0 < amountInAtomic

/-- What a strategy may emit: a swap, or an intent of another kind. -/
inductive Intent
  | swapExactIn (intent : SwapExactInIntent)
  | other

inductive OrderStatus
  | accepted
  | filled
  | rejected
  | executionFailed
  deriving DecidableEq, Repr

def OrderStatus.value : OrderStatus → String
  | accepted => "ACCEPTED"
  | filled => "FILLED"
  | rejected => "REJECTED"
  | executionFailed => "EXECUTION_FAILED"

/-- The reserves an execution leaves a pool with. -/
structure VenueTransition where
  poolId : PoolId
  reserveAAfterAtomic : Nat
  reserveBAfterAtomic : Nat
  deriving DecidableEq

structure ExecutionPlan where
  transition : Option VenueTransition
  fills : List Fill
  ledgerPostings : List Posting
  reports : List String
  fills_ne : fills ≠ []
  fills_distinct : (fills.map (·.orderId)).Nodup
  two_le : 2 ≤ ledgerPostings.length

/-- The constructor of a plan. -/
def ExecutionPlan.make (transition : Option VenueTransition) (fills : List Fill)
    (ledgerPostings : List Posting) (reports : List String) : Except Fault ExecutionPlan :=
  if h1 : fills ≠ [] then
    if h2 : (fills.map (·.orderId)).Nodup then
      if h3 : 2 ≤ ledgerPostings.length then
        .ok ⟨transition, fills, ledgerPostings, reports, h1, h2, h3⟩
      else .error (.value "an execution plan requires balanced ledger postings")
    else .error (.value "an execution plan cannot fill one order twice")
  else .error (.value "an execution plan must contain at least one fill")

/-- What a strategy is told about an order. -/
structure ExecutionNotification where
  orderId : ContentDigest
  status : OrderStatus
  boundaryOrdinal : Nat
  fills : List Fill
  reports : List String
  fills_own : ∀ fill ∈ fills, fill.orderId = orderId
  filled_ne : status = .filled → fills ≠ []

namespace ExecutionNotification

/-- The constructor of a notification. -/
def make (orderId : ContentDigest) (status : OrderStatus) (boundaryOrdinal : Nat)
    (fills : List Fill) (reports : List String) : Except Fault ExecutionNotification :=
  if h1 : ∀ fill ∈ fills, fill.orderId = orderId then
    if h2 : status = .filled → fills ≠ [] then
      .ok ⟨orderId, status, boundaryOrdinal, fills, reports, h1, h2⟩
    else .error (.value "filled notification requires at least one fill")
  else .error (.value "notification contains a fill for another order")

/-- A notification without fills. -/
def plain (orderId : ContentDigest) (status : OrderStatus) (boundaryOrdinal : Nat)
    (reports : List String) (h : status ≠ .filled) : ExecutionNotification :=
  ⟨orderId, status, boundaryOrdinal, [], reports, nofun, fun hs => absurd hs h⟩

/-- The order of the notifications of one boundary. -/
def sortKey (notification : ExecutionNotification) : Nat ×ₗ String :=
  toLex (notification.orderId.hex.val, notification.status.value)

end ExecutionNotification

end OnchainBacktest
