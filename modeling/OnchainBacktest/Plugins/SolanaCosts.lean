import OnchainBacktest.Engine.SnipingContracts

/-!
# Solana network costs

The fee of a legacy or v0 transaction and the rent deposits of the accounts it opens, under
resolved profiles with an effective interval, and the adapter the engine asks for both.

The fee is the base fee and a priority fee rounded up.
-/

set_option autoImplicit false

namespace OnchainBacktest

open Checked

def MICRO_LAMPORTS_PER_LAMPORT : Nat := 1000000

def SOLANA_LEGACY_V0_FEE_FORMULA_V1 : String := "solana-legacy-v0-base-priority-v1"

def SOLANA_NATIVE_ASSET_ID : AssetId := ⟨"SOL"⟩

inductive SolanaTransactionFormat
  | legacy
  | v0
  | v1
  | unknown
  deriving DecidableEq, Repr

/-- Resolved transaction fee inputs for one effective interval. -/
structure SolanaFeeProfile where
  formulaVersion : String
  transactionFormat : SolanaTransactionFormat
  effectiveFromUnixS : Nat
  effectiveUntilUnixS : Nat
  chargedSignatureCount : Nat
  lamportsPerSignature : Nat
  computeUnitLimit : Nat
  microLamportsPerComputeUnit : Nat
  until_le : effectiveUntilUnixS ≤ UINT64_MAX
  interval : effectiveFromUnixS < effectiveUntilUnixS
  signatures_pos : 0 < chargedSignatureCount
  signatures_le : chargedSignatureCount ≤ UINT64_MAX
  lamports_le : lamportsPerSignature ≤ UINT64_MAX
  units_le : computeUnitLimit ≤ 1400000
  micro_le : microLamportsPerComputeUnit ≤ UINT64_MAX

/-- Rent-exempt deposit for one account schema. -/
structure SolanaAccountDepositCost where
  accountSchemaId : String
  depositLamports : Nat
  refundable : Bool
  deposit_le : depositLamports ≤ UINT64_MAX

/-- Canonical account-schema to rent-deposit mapping for one effective interval. -/
structure SolanaAccountCostProfile where
  effectiveFromUnixS : Nat
  effectiveUntilUnixS : Nat
  costs : List SolanaAccountDepositCost
  until_le : effectiveUntilUnixS ≤ UINT64_MAX
  interval : effectiveFromUnixS < effectiveUntilUnixS
  sorted : (costs.map SolanaAccountDepositCost.accountSchemaId).Pairwise (· < ·)

structure SolanaTransactionFeeQuote where
  baseFeeLamports : Nat
  priorityFeeLamports : Nat
  deriving DecidableEq

def requireEffective (start stop effectiveAtUnixS : Nat) : Except Fault Unit := do
  refuseIf (UINT64_MAX < effectiveAtUnixS) (.value "effective_at_unix_s must be a u64")
  refuseIf (¬ (start ≤ effectiveAtUnixS ∧ effectiveAtUnixS < stop))
    (.solanaCost .profileNotEffective)

/-- Quote base plus rounded-up priority fee. -/
def quoteTransactionFee (profile : SolanaFeeProfile) (effectiveAtUnixS : Nat) :
    Except Fault SolanaTransactionFeeQuote := do
  requireEffective profile.effectiveFromUnixS profile.effectiveUntilUnixS effectiveAtUnixS
  refuseIf (profile.formulaVersion ≠ SOLANA_LEGACY_V0_FEE_FORMULA_V1)
    (.solanaCost .unsupportedFeeFormula)
  refuseIf (profile.transactionFormat ≠ .legacy ∧ profile.transactionFormat ≠ .v0)
    (.solanaCost .unsupportedTransactionFormat)
  let baseFee := profile.chargedSignatureCount * profile.lamportsPerSignature
  refuseIf (UINT64_MAX < baseFee) (.solanaCost .arithmeticOverflow)
  let priorityNumerator := profile.computeUnitLimit * profile.microLamportsPerComputeUnit
  refuseIf (2 ^ 128 - 1 < priorityNumerator) (.solanaCost .arithmeticOverflow)
  let priorityFee := (priorityNumerator + MICRO_LAMPORTS_PER_LAMPORT - 1) / MICRO_LAMPORTS_PER_LAMPORT
  refuseIf (UINT64_MAX < baseFee + priorityFee) (.solanaCost .arithmeticOverflow)
  .ok ⟨baseFee, priorityFee⟩

/-- The price of one requirement. -/
def priceAccountRequirement (profile : SolanaAccountCostProfile) (depositAssetId : AssetId)
    (requirement : AccountRequirement) : Except Fault PricedAccountRequirement :=
  match profile.costs.find? fun cost => cost.accountSchemaId == requirement.requirementSchemaId with
  | none => .error (.solanaCost .unknownAccountSchema)
  | some cost => do
    refuseIf (cost.refundable = false) (.solanaCost .nonRefundableAccountCost)
    PricedAccountRequirement.make requirement depositAssetId cost.depositLamports

/-- Attach exact deposit prices to requirements. -/
def priceAccountRequirements (profile : SolanaAccountCostProfile)
    (requirements : List AccountRequirement) (depositAssetId : AssetId) (effectiveAtUnixS : Nat) :
    Except Fault (List PricedAccountRequirement) := do
  refuseIf (¬ requirements.Pairwise fun a b => accountRequirementLe a b = true)
    (.value "account requirements must be canonically sorted")
  requireEffective profile.effectiveFromUnixS profile.effectiveUntilUnixS effectiveAtUnixS
  let priced ← requirements.mapM (priceAccountRequirement profile depositAssetId)
  .ok (priced.insertionSort fun a b => pricedAccountRequirementLe a b = true)

/-- `except SolanaCostError as error: raise NetworkCostContractError(error.code.value)`. -/
def mapSolanaError {α : Type} : Except Fault α → Except Fault α
  | .error (.solanaCost code) => .error (.networkCost code.value)
  | other => other

/-- Separate buy and sell fees, and explicit account deposits. -/
structure SolanaSnipingCostModel where
  buyFeeProfile : SolanaFeeProfile
  sellFeeProfile : SolanaFeeProfile
  accountCostProfile : SolanaAccountCostProfile

namespace SolanaSnipingCostModel

def feeCollectorAccountId : AccountId := .networkFee "solana"

variable (costs : SolanaSnipingCostModel)

def quoteBuy (effectiveAtUnixS : Nat) (requirements : List AccountRequirement) :
    Except Fault NetworkCostQuote := do
  let fee ← mapSolanaError (quoteTransactionFee costs.buyFeeProfile effectiveAtUnixS)
  let priced ← mapSolanaError (priceAccountRequirements costs.accountCostProfile requirements
    SOLANA_NATIVE_ASSET_ID effectiveAtUnixS)
  NetworkCostQuote.make SOLANA_NATIVE_ASSET_ID fee.baseFeeLamports fee.priorityFeeLamports priced

def quoteSell (effectiveAtUnixS : Nat) : Except Fault NetworkCostQuote := do
  let fee ← mapSolanaError (quoteTransactionFee costs.sellFeeProfile effectiveAtUnixS)
  NetworkCostQuote.make SOLANA_NATIVE_ASSET_ID fee.baseFeeLamports fee.priorityFeeLamports []

end SolanaSnipingCostModel

end OnchainBacktest
