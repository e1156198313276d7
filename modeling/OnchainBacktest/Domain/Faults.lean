/-!
# Faults

Every exception the modelled code raises, as one type.  A constructor stands for an exception
class and carries what the class carries: the closed error code of a typed error, the code of an
expected rejection, or the message of a plain `ValueError`.

Only two of them are ever caught: `Fault.pumpQuote` and `Fault.solanaCost` are mapped to contract
errors or to rejections by the adapters, and `Fault.executionRejected` is what an engine turns into
a rejected or failed order.  Everything else stops the run.
-/

set_option autoImplicit false

namespace OnchainBacktest

/-- `TransactionClockErrorCode`. -/
inductive TransactionClockErrorCode
  | emptyClock
  | arrayLengthMismatch
  | blockOrderInvalid
  | transactionCountInvalid
  | prefixInvalid
  | prefixOverflow
  | missingBlockTime
  | blockTimeResolutionInvalid
  | blockTimeRegression
  | positionOutsideClock
  | transactionIndexOutOfRange
  | nonPositiveTransactionDelay
  | settlementTailExhausted
  | durationTargetOutsideClock
  deriving DecidableEq, Repr

/-- `ProtocolContractErrorCode`. -/
inductive ProtocolContractErrorCode
  | unsupportedPayloadSchema
  | unsupportedProtocolVersion
  | unknownProgramMode
  | excludedProgramMode
  | unknownLifecycle
  | nonSupportedQuoteAsset
  | malformedProtocolPayload
  | unknownVenue
  | inconsistentVenueIdentity
  | profileNotEffective
  deriving DecidableEq, Repr

/-- `SnipingEngineErrorCode`. -/
inductive SnipingEngineErrorCode
  | sourceOrderInvalid
  | sourceCountMismatch
  | mixedTransactionGroup
  | mixedNetwork
  | duplicateRoundtrip
  | dynamicItemLimitExceeded
  | portfolioInvariant
  | quoteContractMismatch
  | deliveryScheduleInvalid
  | internalStateInvalid
  deriving DecidableEq, Repr

/-- `PumpQuoteErrorCode`. -/
inductive PumpQuoteErrorCode
  | unsupportedProgramVersion
  | unsupportedFormulaVersion
  | profileNotEffective
  | unknownMode
  | unknownLifecycle
  | curveCompleted
  | pumpswapRoutingForbidden
  | inputOutOfBounds
  | outputOutOfBounds
  | insufficientRealTokenReserves
  | insufficientRealSolReserves
  | arithmeticOverflow
  deriving DecidableEq, Repr

/-- The stable token of a quote error. -/
def PumpQuoteErrorCode.value : PumpQuoteErrorCode → String
  | unsupportedProgramVersion => "UNSUPPORTED_PROGRAM_VERSION"
  | unsupportedFormulaVersion => "UNSUPPORTED_FORMULA_VERSION"
  | profileNotEffective => "PROFILE_NOT_EFFECTIVE"
  | unknownMode => "UNKNOWN_MODE"
  | unknownLifecycle => "UNKNOWN_LIFECYCLE"
  | curveCompleted => "CURVE_COMPLETED"
  | pumpswapRoutingForbidden => "PUMPSWAP_ROUTING_FORBIDDEN"
  | inputOutOfBounds => "INPUT_OUT_OF_BOUNDS"
  | outputOutOfBounds => "OUTPUT_OUT_OF_BOUNDS"
  | insufficientRealTokenReserves => "INSUFFICIENT_REAL_TOKEN_RESERVES"
  | insufficientRealSolReserves => "INSUFFICIENT_REAL_SOL_RESERVES"
  | arithmeticOverflow => "ARITHMETIC_OVERFLOW"

/-- `SolanaCostErrorCode`. -/
inductive SolanaCostErrorCode
  | profileNotEffective
  | unsupportedFeeFormula
  | unsupportedTransactionFormat
  | unknownAccountSchema
  | nonRefundableAccountCost
  | arithmeticOverflow
  deriving DecidableEq, Repr

/-- The stable token of a network cost error. -/
def SolanaCostErrorCode.value : SolanaCostErrorCode → String
  | profileNotEffective => "PROFILE_NOT_EFFECTIVE"
  | unsupportedFeeFormula => "UNSUPPORTED_FEE_FORMULA"
  | unsupportedTransactionFormat => "UNSUPPORTED_TRANSACTION_FORMAT"
  | unknownAccountSchema => "UNKNOWN_ACCOUNT_SCHEMA"
  | nonRefundableAccountCost => "NON_REFUNDABLE_ACCOUNT_COST"
  | arithmeticOverflow => "ARITHMETIC_OVERFLOW"

/-- An exception of the modelled code. -/
inductive Fault
  /-- `ValueError`. -/
  | value (message : String)
  /-- `OverflowError`. -/
  | overflow (message : String)
  /-- `AssertionError`. -/
  | assertion (message : String)
  /-- `UnsupportedPositionSchemaError`. -/
  | unsupportedPositionSchema
  /-- `ChainIdentityMismatchError`. -/
  | chainIdentityMismatch (message : String)
  /-- `TransactionClockError`. -/
  | transactionClock (code : TransactionClockErrorCode)
  /-- `ProtocolContractError`. -/
  | protocolContract (code : ProtocolContractErrorCode)
  /-- `ProtocolExecutionRejected`. -/
  | executionRejected (code : String)
  /-- `NetworkCostContractError`. -/
  | networkCost (code : String)
  /-- `PumpQuoteError`. -/
  | pumpQuote (code : PumpQuoteErrorCode)
  /-- `SolanaCostError`. -/
  | solanaCost (code : SolanaCostErrorCode)
  /-- `WalletProvisioningError`. -/
  | walletProvisioning (message : String)
  /-- `PortfolioInvariantError`. -/
  | portfolioInvariant (message : String)
  /-- `SnipingEngineError`. -/
  | snipingEngine (code : SnipingEngineErrorCode)
  /-- `OptimizedSnipingBackendUnsupported`. -/
  | optimizedUnsupported (message : String)
  deriving DecidableEq, Repr

end OnchainBacktest
