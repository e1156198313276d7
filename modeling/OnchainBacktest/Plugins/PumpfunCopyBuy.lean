import OnchainBacktest.Domain.Copytrading
import OnchainBacktest.Plugins.PumpRuntime
import OnchainBacktest.Source.RawRows

/-!
# The copy-buy plugin of Pump.fun

The copy-buy protocol is the sniping protocol over another trade payload, one that names the wallet
that signed the trade: a group of trades is decoded, handed to the shared reducer without the
signers, and the buys in it come back as signals.

The strategy takes the first eligible buy of a mint and never the mint again.
-/

set_option autoImplicit false

namespace OnchainBacktest

open Checked

/-! ## The payload -/

def COPYBUY_TRADE_PAYLOAD_SCHEMA : ProtocolPayloadSchemaId := ⟨"pumpfun-copybuy-trade-payload-v1"⟩

/-- One source signer and the curve state after its trade. -/
structure CopyBuyTradePayload where
  signingWallet : AccountId
  stateAfter : PumpCurveStateV1

/-- The canonical document of a payload. -/
def copybuyDocument (wallet : String) (state : PumpCurveStateV1) : String :=
  "\x7b\"signing_wallet\":\"" ++ wallet ++ "\",\"state_after\":" ++ stateDocument state ++ "\x7d"

def encodeCopybuyTradePayload (wallet : String) (state : PumpCurveStateV1) : List UInt8 :=
  (copybuyDocument wallet state).toList.map fun c => UInt8.ofNat c.toNat

/-- The signer and the text of the state, in the order they are written. -/
def readCopybuy (cs : List Char) : Option (String × List Char) := do
  let cs ← readLiteral "\x7b\"signing_wallet\":\"" cs
  let wallet := cs.takeWhile Source.BASE58_ALPHABET.contains
  let cs ← readLiteral "\",\"state_after\":" (cs.drop wallet.length)
  some (String.ofList wallet, cs.dropLast)

/-- Decode one payload; every way to fail is the same contract error.  The signer has to be a
32-byte base58 text, and the whole the canonical encoding of its parts. -/
def decodeCopybuyTradePayload (payload : List UInt8) : Except Fault CopyBuyTradePayload :=
  match readCopybuy (payload.map fun b => Char.ofNat b.toNat) with
  | none => .error (.protocolContract .malformedProtocolPayload)
  | some (wallet, state) => do
    refuseIf (Source.base58Width wallet.toList ≠ 32) (.protocolContract .malformedProtocolPayload)
    let state ← decodeState (state.map fun c => UInt8.ofNat c.toNat)
    refuseIf (encodeCopybuyTradePayload wallet state ≠ payload)
      (.protocolContract .malformedProtocolPayload)
    .ok ⟨.address wallet, state⟩

/-- The base58 letters are bytes. -/
theorem base58_letters : ∀ c ∈ Source.BASE58_ALPHABET, c.toNat < 256 := by
  have h : isByteText "123456789ABCDEFGHJKLMNPQRSTUVWXYZabcdefghijkmnopqrstuvwxyz" = true := by
    decide
  exact isByteText_iff.mp h

/-- The signer and the state are read back from the document. -/
theorem readCopybuy_copybuyDocument {wallet : String} (state : PumpCurveStateV1)
    (h : ∀ c ∈ wallet.toList, c ∈ Source.BASE58_ALPHABET) :
    readCopybuy (copybuyDocument wallet state).toList
      = some (wallet, (stateDocument state).toList) := by
  have hquote : Source.BASE58_ALPHABET.contains '"' = false := by decide
  have hclose : (stateDocument state ++ "\x7d").toList.dropLast = (stateDocument state).toList := by
    rw [String.toList_append, show "\x7d".toList = ['\x7d'] from rfl, List.dropLast_concat]
  have htext : copybuyDocument wallet state = "\x7b\"signing_wallet\":\""
      ++ (wallet ++ ("\",\"state_after\":" ++ (stateDocument state ++ "\x7d"))) := by
    delta copybuyDocument
    repeat rewrite [String.append_assoc]
    exact Eq.refl _
  have hwallet : (wallet ++ ("\",\"state_after\":"
      ++ (stateDocument state ++ "\x7d"))).toList.takeWhile Source.BASE58_ALPHABET.contains
      = wallet.toList := by
    rw [String.toList_append, List.takeWhile_append_of_pos fun c hc =>
      List.contains_iff_mem.mpr (h c hc), String.toList_append,
      show "\",\"state_after\":".toList = '"' :: ",\"state_after\":".toList from rfl,
      List.cons_append, List.takeWhile_cons, hquote, if_neg Bool.false_ne_true, List.append_nil]
  rw [htext, readCopybuy, readLiteral_append]
  simp only [Option.bind_eq_bind, Option.bind_some, hwallet]
  rw [String.toList_append, List.drop_left, readLiteral_append, Option.bind_some, hclose,
    String.ofList_toList]

/-- **A payload of a 32-byte signer is decoded to its parts.** -/
theorem decodeCopybuyTradePayload_encode {wallet : String} (state : PumpCurveStateV1)
    (h : ∀ c ∈ wallet.toList, c ∈ Source.BASE58_ALPHABET)
    (hwidth : Source.base58Width wallet.toList = 32) :
    decodeCopybuyTradePayload (encodeCopybuyTradePayload wallet state)
      = .ok ⟨.address wallet, state⟩ := by
  have h1 : isByteText "\x7b\"signing_wallet\":\"" = true := by decide
  have h2 : isByteText "\",\"state_after\":" = true := by decide
  have h3 : isByteText "\x7d" = true := by decide
  have hwallet : isByteText wallet = true :=
    isByteText_iff.mpr fun c hc => base58_letters c (h c hc)
  have hbytes : isByteText (copybuyDocument wallet state) = true :=
    isByteText_append (isByteText_append (isByteText_append (isByteText_append h1 hwallet) h2)
      (isByteText_stateDocument state)) h3
  rw [decodeCopybuyTradePayload, encodeCopybuyTradePayload, map_ofNat_of_isByteText hbytes,
    readCopybuy_copybuyDocument state h]
  show (refuseIf _ _ >>= fun _ => decodeState (encodeState state) >>= _) = _
  rw [refuseIf_of_not (not_not.mpr hwidth), ok_bind, decodeState_encodeState, ok_bind,
    encodeCopybuyTradePayload, refuseIf_of_not (not_not.mpr rfl), ok_bind]

/-! ## The protocol -/

/-- Retain the original source occurrence and its signer. -/
def copySignal (event : VenueTradeEvent) (signingWallet : AccountId) :
    Except Fault CopyBuySignal :=
  CopyBuySignal.make event.envelope.canonicalEventId event.envelope.position signingWallet
    event.boughtAssetId event.venueId event.soldAssetId

namespace PumpfunSnipingProtocolRuntime

variable (runtime : PumpfunSnipingProtocolRuntime)

/-- One event as the shared reducer takes it, and the signal it is. -/
def copyEvent (event : CanonicalEvent) : Except Fault (CanonicalEvent × Option CopyBuySignal) :=
  match event with
  | .venueTrade trade => do
    refuseIf (trade.protocolPayloadSchema ≠ COPYBUY_TRADE_PAYLOAD_SCHEMA)
      (.protocolContract .unsupportedPayloadSchema)
    let payload ← decodeCopybuyTradePayload trade.protocolPayload
    let stateEvent : CanonicalEvent := .venueTrade { trade with
      protocolPayloadSchema := PUMPFUN_TRADE_PAYLOAD_SCHEMA_ID
      protocolPayload := encodeState payload.stateAfter }
    if trade.soldAssetId = runtime.quoteAssetId then do
      let signal ← copySignal trade payload.signingWallet
      .ok (stateEvent, some signal)
    else .ok (stateEvent, none)
  | event => .ok (event, none)

/-- Apply one whole group to the curves; the signals are its buys, in the order of the events. -/
def applyGroup (curves : Curves) (events : List CanonicalEvent) (effectiveAtUnixS : Nat) :
    Except Fault (Curves × List CopyBuySignal) := do
  let copied ← events.mapM runtime.copyEvent
  let (curves, _) ← runtime.applyHistoricalGroup curves (copied.map Prod.fst) effectiveAtUnixS
  .ok (curves, copied.filterMap Prod.snd)

/-- The marginal price of an active curve, without fees and own market impact. -/
def currentPrice (curves : Curves) (intent : CopyBuyIntent) : Except Fault (Option TokenPrice) := do
  let record ← runtime.intentCurve curves intent.toPositionIntent
  if record.state.lifecycle ≠ .active then .ok none
  else .ok (some (TokenPrice.ofAmounts record.state.virtualSolReservesLamports
    record.state.virtualTokenReservesAtomic record.state.virtual_sol_pos
    record.state.virtual_token_pos))

end PumpfunSnipingProtocolRuntime

/-! ## The strategy -/

/-- The configured strategy. -/
structure PumpfunCopyBuyStrategy where
  signingWallets : List AccountId
  policy : CopyBuyPolicy
  bundleId : ContentDigest
  executionMode : ExecutionMode
  quoteAssetId : AssetId
  maximumConsumedMints : Nat
  wallets_ne : signingWallets ≠ []
  wallets_sorted : signingWallets.Pairwise fun a b => a.value < b.value
  maximum_pos : 0 < maximumConsumedMints
  mode_supported : executionMode ∈ SNIPING_EXECUTION_MODES

/-- The operands of a policy, as they are hashed. -/
def CopyBuyPolicy.digestFields (policy : CopyBuyPolicy) : List (String × DigestField) :=
  [("schema", .text COPY_BUY_POLICY_SCHEMA), ("price_policy", .text COPY_BUY_PRICE_POLICY),
    ("gross_buy_budget_atomic", .integer policy.grossBuyBudgetAtomic),
    ("take_profit_bps", .integer policy.takeProfitBps),
    ("stop_loss_bps", .integer policy.stopLossBps),
    ("maximum_hold_seconds", .integer policy.maximumHoldSeconds),
    ("observation_delay_transactions", .integer policy.observationDelayTransactions),
    ("buy_delay_transactions", .integer policy.buyDelayTransactions),
    ("sell_delay_transactions", .integer policy.sellDelayTransactions),
    ("buy_slippage_bps", .integer policy.buySlippageBps),
    ("sell_slippage_bps", .integer policy.sellSlippageBps)]

namespace PumpfunCopyBuyStrategy

variable [DomainDigest] (strategy : PumpfunCopyBuyStrategy)

/-- The identity of the configured strategy. -/
def componentId : ContentDigest :=
  plainDigest "backtest.configured-pumpfun-copy-buy.v1"
    ([("bundle_id", .text strategy.bundleId.spelling)]
      ++ strategy.signingWallets.map (fun wallet => ("signing_wallets", .text wallet.value))
      ++ strategy.policy.digestFields
      ++ [("execution_mode", .text strategy.executionMode.value),
        ("quote_asset_id", .text strategy.quoteAssetId.value)])

/-- `_position_id`: the winning wallet and its signal cannot be substituted. -/
def positionId (signal : CopyBuySignal) (decision : ChainPosition) : ContentDigest :=
  plainDigest "backtest.pumpfun-copy-buy-position.v1"
    [("component_id", .text strategy.componentId.spelling),
      ("signal_event_id", .text signal.eventId.spelling),
      ("signing_wallet", .text signal.signingWallet.value),
      ("network_id", .text signal.position.networkId.value),
      ("position_schema_id", .text signal.position.positionSchemaId.value),
      ("signal_boundary", .integer signal.position.boundaryOrdinal),
      ("signal_event_index", match signal.position.eventIndex with
        | none => .null
        | some index => .integer index),
      ("decision_boundary", .integer decision.boundaryOrdinal)]

/-- Decide one signal.  A mint that is taken is consumed for the rest of the run. -/
def decide (consumedMints : List AssetId) (signal : CopyBuySignal)
    (decisionPosition : ChainPosition) : Except Fault (Option CopyBuyIntent × List AssetId) :=
  if signal.signingWallet ∉ strategy.signingWallets then .ok (none, consumedMints)
  else do
    refuseIf (signal.quoteAssetId ≠ strategy.quoteAssetId)
      (.value "copy signal has an unsupported quote asset")
    if signal.assetId ∈ consumedMints then .ok (none, consumedMints)
    else do
      refuseIf (strategy.maximumConsumedMints ≤ consumedMints.length)
        (.value "copy-buy consumed-mint resource limit exceeded")
      let intent ← CopyBuyIntent.make (strategy.positionId signal decisionPosition) signal
        decisionPosition strategy.policy strategy.executionMode
      .ok (some intent, consumedMints ++ [signal.assetId])

variable {strategy}

/-- **An intent is about its signal, and its mint was not consumed before.** -/
theorem decide_eq_some {consumedMints consumedMints' : List AssetId} {signal : CopyBuySignal}
    {position : ChainPosition} {intent : CopyBuyIntent}
    (h : strategy.decide consumedMints signal position = .ok (some intent, consumedMints')) :
    intent.roundtripId = strategy.positionId signal position ∧ intent.signal = signal ∧
      intent.decisionPosition = position ∧ intent.policy = strategy.policy ∧
      intent.executionMode = strategy.executionMode ∧
      signal.signingWallet ∈ strategy.signingWallets ∧
      signal.quoteAssetId = strategy.quoteAssetId ∧ signal.assetId ∉ consumedMints ∧
      consumedMints' = consumedMints ++ [signal.assetId] := by
  rw [decide] at h
  split at h
  · cases h
  · rename_i hwallet
    obtain ⟨hquote, h⟩ := check_bind_eq_ok.mp h
    split at h
    · cases h
    · rename_i hnew
      obtain ⟨_, h⟩ := check_bind_eq_ok.mp h
      obtain ⟨made, hmade, h⟩ := bind_eq_ok.mp h
      cases h
      obtain ⟨h1, h2, h3, h4, h5⟩ := CopyBuyIntent.make_eq_ok hmade
      exact ⟨h1, h2, h3, h4, h5, not_not.mp hwallet, not_not.mp (refuseIf_eq_ok.mp hquote), hnew,
        rfl⟩

/-- A signal that is not taken consumes nothing. -/
theorem decide_eq_none {consumedMints consumedMints' : List AssetId} {signal : CopyBuySignal}
    {position : ChainPosition}
    (h : strategy.decide consumedMints signal position = .ok (none, consumedMints')) :
    consumedMints' = consumedMints := by
  rw [decide] at h
  split at h
  · cases h
    rfl
  · obtain ⟨_, h⟩ := check_bind_eq_ok.mp h
    split at h
    · cases h
      rfl
    · obtain ⟨_, h⟩ := check_bind_eq_ok.mp h
      obtain ⟨made, _, h⟩ := bind_eq_ok.mp h
      cases h

end PumpfunCopyBuyStrategy

end OnchainBacktest
