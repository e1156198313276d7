import OnchainBacktest.Lib.Method
import OnchainBacktest.Plugins.PumpRuntime

/-!
# Groups applied to a runtime in place

The runtime keeps its curves in a dictionary, and `apply_historical_group` works on a copy: it
writes the copy event by event and points the runtime to it at the end.  Here the dictionaries are
cells of a memory, and the method is followed write by write, also where an event is refused after
others were applied.  What the runtime points to is then what the checked function of
`PumpRuntime` says, and a refused group leaves it as it was (`groups_atomic`).

Every curve stored this way is in a known mode and lifecycle, so it can be packed into seven
integers, and both ways of valuing a position answer alike (`valuationQuote_eq`).
-/

set_option autoImplicit false

namespace OnchainBacktest

open Checked

/-! ## The memory of a runtime -/

/-- The dictionaries made so far, and the one the runtime points to as its curves. -/
structure RuntimeMemory where
  cells : Nat → Curves
  fresh : Nat
  current : Nat

namespace RuntimeMemory

/-- `self._curves`. -/
def curves (memory : RuntimeMemory) : Curves := memory.cells memory.current

/-- A new runtime has one empty dictionary. -/
def start : RuntimeMemory := ⟨fun _ => Dict.empty, 1, 0⟩

/-- `dict(self._curves)`. -/
def copied (memory : RuntimeMemory) : RuntimeMemory :=
  { memory with
    cells := Function.update memory.cells memory.fresh memory.curves
    fresh := memory.fresh + 1 }

/-- The memory after a write to a dictionary. -/
def written (memory : RuntimeMemory) (cell : Nat) (curves : Curves) : RuntimeMemory :=
  { memory with cells := Function.update memory.cells cell curves }

/-- The memory after the runtime is pointed to a dictionary. -/
def pointed (memory : RuntimeMemory) (cell : Nat) : RuntimeMemory := { memory with current := cell }

/-- Nothing but one cell differs, and the runtime points where it did. -/
structure Frame (cell : Nat) (before after : RuntimeMemory) : Prop where
  current : after.current = before.current
  fresh : after.fresh = before.fresh
  cells : ∀ other, other ≠ cell → after.cells other = before.cells other

theorem Frame.refl (cell : Nat) (memory : RuntimeMemory) : Frame cell memory memory :=
  ⟨rfl, rfl, fun _ _ => rfl⟩

theorem Frame.trans {cell : Nat} {a b c : RuntimeMemory} (h : Frame cell a b) (h' : Frame cell b c) :
    Frame cell a c :=
  ⟨h'.current.trans h.current, h'.fresh.trans h.fresh,
    fun other hne => (h'.cells other hne).trans (h.cells other hne)⟩

theorem frame_written (memory : RuntimeMemory) (cell : Nat) (curves : Curves) :
    Frame cell memory (memory.written cell curves) :=
  ⟨rfl, rfl, fun _ hne => Function.update_of_ne hne _ _⟩

@[simp] theorem written_cell (memory : RuntimeMemory) (cell : Nat) (curves : Curves) :
    (memory.written cell curves).cells cell = curves :=
  Function.update_self ..

end RuntimeMemory

/-! ## The method -/

namespace PumpfunSnipingProtocolRuntime

variable (runtime : PumpfunSnipingProtocolRuntime)

/-- One event: the candidate dictionary is written when the event passes. -/
def applyEventAt (effectiveAtUnixS candidate : Nat) (launches : List LaunchTarget)
    (event : CanonicalEvent) : Method RuntimeMemory Fault (List LaunchTarget) where
  run memory :=
    match runtime.applyEvent effectiveAtUnixS (memory.cells candidate, launches) event with
    | .error e => (.error e, memory)
    | .ok (curves, launches) => (.ok launches, memory.written candidate curves)

/-- The events of a group, one after the other. -/
def applyEventsAt (effectiveAtUnixS candidate : Nat) :
    List LaunchTarget → List CanonicalEvent → Method RuntimeMemory Fault (List LaunchTarget)
  | launches, [] => pure launches
  | launches, event :: rest => do
    let launches ← runtime.applyEventAt effectiveAtUnixS candidate launches event
    applyEventsAt effectiveAtUnixS candidate launches rest

/-- Make the candidate dictionary. -/
def copyCurves : Method RuntimeMemory Fault Nat where
  run memory := (.ok memory.fresh, memory.copied)

/-- `apply_historical_group`. -/
def applyGroupAt (events : List CanonicalEvent) (effectiveAtUnixS : Nat) :
    Method RuntimeMemory Fault (List LaunchTarget) :=
  match events with
  | [] => Method.read fun _ => .error (.value "historical group must be non-empty")
  | first :: rest => do
    Method.read fun _ =>
      refuseIf (∃ event ∈ rest, event.envelope.boundaryOrdinal ≠ first.envelope.boundaryOrdinal ∨
          event.envelope.transactionGroupId ≠ first.envelope.transactionGroupId)
        (.protocolContract .inconsistentVenueIdentity)
    let candidate ← copyCurves
    let launches ← runtime.applyEventsAt effectiveAtUnixS candidate [] (first :: rest)
    Method.write fun memory => memory.pointed candidate
    pure launches

variable {runtime} {t : Nat}

/-- The loop over the events does to the candidate what the checked function does, and to nothing
else. -/
theorem run_applyEventsAt (candidate : Nat) (events : List CanonicalEvent)
    (launches : List LaunchTarget) (memory : RuntimeMemory) :
    ∃ left, RuntimeMemory.Frame candidate memory left ∧
      match events.foldlM (runtime.applyEvent t) (memory.cells candidate, launches) with
      | .error e =>
        (runtime.applyEventsAt t candidate launches events).run memory = (.error e, left)
      | .ok (curves, launched) =>
        (runtime.applyEventsAt t candidate launches events).run memory = (.ok launched, left) ∧
          left.cells candidate = curves := by
  induction events generalizing launches memory with
  | nil => exact ⟨memory, .refl _ _, rfl, rfl⟩
  | cons event rest ih =>
    rw [List.foldlM_cons, applyEventsAt]
    cases hevent : runtime.applyEvent t (memory.cells candidate, launches) event with
    | error e =>
      have hrun : (runtime.applyEventAt t candidate launches event).run memory
          = (.error e, memory) := by
        rw [applyEventAt]
        simp only [hevent]
      exact ⟨memory, .refl _ _, Method.run_bind_error hrun⟩
    | ok result =>
      obtain ⟨curves, launched⟩ := result
      have hrun : (runtime.applyEventAt t candidate launches event).run memory
          = (.ok launched, memory.written candidate curves) := by
        rw [applyEventAt]
        simp only [hevent]
      obtain ⟨left, hframe, hrest⟩ := ih launched (memory.written candidate curves)
      rw [RuntimeMemory.written_cell] at hrest
      refine ⟨left, (memory.frame_written candidate curves).trans hframe, ?_⟩
      rw [ok_bind, Method.run_bind_ok hrun]
      exact hrest

/-- **A group in place.**  The method returns what the checked function returns for the curves the
runtime has, and the runtime then has the curves of the function; a refused group leaves them. -/
theorem run_applyGroupAt (events : List CanonicalEvent) {memory : RuntimeMemory}
    (hmemory : memory.current < memory.fresh) :
    ∃ result left, (runtime.applyGroupAt events t).run memory = (result, left) ∧
      left.current < left.fresh ∧
      Method.leave memory.curves (runtime.applyHistoricalGroup memory.curves events t)
        = (result, left.curves) := by
  cases events with
  | nil => exact ⟨_, memory, rfl, hmemory, rfl⟩
  | cons first rest =>
    rw [applyGroupAt, applyHistoricalGroup]
    by_cases hmixed : ∃ event ∈ rest,
        event.envelope.boundaryOrdinal ≠ first.envelope.boundaryOrdinal ∨
          event.envelope.transactionGroupId ≠ first.envelope.transactionGroupId
    · rw [refuseIf_of hmixed]
      exact ⟨_, memory, rfl, hmemory, rfl⟩
    · have hread : (Method.read fun _ => Except.ok () : Method RuntimeMemory Fault Unit).run memory
          = (.ok (), memory) := rfl
      rw [refuseIf_of_not hmixed, ok_bind, Method.run_bind_ok hread]
      obtain ⟨left, hframe, hloop⟩ :=
        run_applyEventsAt (t := t) memory.fresh (first :: rest) [] memory.copied
      have hcopied : memory.copied.cells memory.fresh = memory.curves := Function.update_self ..
      rw [hcopied] at hloop
      rw [Method.run_bind_ok (show copyCurves.run memory = (.ok memory.fresh, memory.copied) from rfl)]
      have hcurrent : left.current = memory.current := hframe.current
      have hfresh : left.fresh = memory.fresh + 1 := hframe.fresh
      cases hgroup : (first :: rest).foldlM (runtime.applyEvent t) (memory.curves, []) with
      | error e =>
        rw [hgroup] at hloop
        refine ⟨_, left, Method.run_bind_error hloop, by omega, ?_⟩
        -- the dictionary the runtime points to is older than the candidate
        have hold : left.cells memory.current = memory.cells memory.current :=
          (hframe.cells _ (Nat.ne_of_lt hmemory)).trans
            (Function.update_of_ne (Nat.ne_of_lt hmemory) _ _)
        rw [Method.leave, RuntimeMemory.curves, RuntimeMemory.curves, hcurrent, hold]
      | ok result =>
        obtain ⟨curves, launched⟩ := result
        rw [hgroup] at hloop
        obtain ⟨hrun, hcell⟩ := hloop
        refine ⟨.ok launched, left.pointed memory.fresh, ?_, ?_, ?_⟩
        · rw [Method.run_bind_ok hrun, Method.run_write_bind, Method.run_pure]
        · show memory.fresh < left.fresh
          omega
        · rw [Method.leave, ← hcell]
          rfl

/-! ## Sequences of groups -/

/-- The memory after groups came in one after the other, whether they were applied or refused. -/
def applyGroups (runtime : PumpfunSnipingProtocolRuntime) :
    RuntimeMemory → List (List CanonicalEvent × Nat) → RuntimeMemory
  | memory, [] => memory
  | memory, (events, effectiveAtUnixS) :: rest =>
    applyGroups runtime ((runtime.applyGroupAt events effectiveAtUnixS).run memory).2 rest

/-- What every group keeps of the stored curves holds after any sequence of groups. -/
theorem applyGroups_keeps {P : Curves → Prop}
    (hstep : ∀ curves events t curves' launches, P curves →
      runtime.applyHistoricalGroup curves events t = .ok (curves', launches) → P curves')
    (groups : List (List CanonicalEvent × Nat)) {memory : RuntimeMemory}
    (hmemory : memory.current < memory.fresh) (hP : P memory.curves) :
    (applyGroups runtime memory groups).current < (applyGroups runtime memory groups).fresh ∧
      P (applyGroups runtime memory groups).curves := by
  induction groups generalizing memory with
  | nil => exact ⟨hmemory, hP⟩
  | cons group rest ih =>
    obtain ⟨events, t⟩ := group
    obtain ⟨result, left, hrun, hleft, hleave⟩ := run_applyGroupAt (t := t) events hmemory
    rw [applyGroups, hrun]
    refine ih hleft ?_
    cases hgroup : runtime.applyHistoricalGroup memory.curves events t with
    | error e =>
      rw [hgroup] at hleave
      exact (Prod.mk.inj hleave).2 ▸ hP
    | ok outcome =>
      obtain ⟨curves', launches⟩ := outcome
      rw [hgroup] at hleave
      exact (Prod.mk.inj hleave).2 ▸ hstep _ _ _ _ _ hP hgroup

/-! ## Stored states are known -/

end PumpfunSnipingProtocolRuntime

/-- Mode and lifecycle are known. -/
def PumpCurveStateV1.Known (state : PumpCurveStateV1) : Prop :=
  state.mode ≠ .unknown ∧ state.lifecycle ≠ .unknown

/-- The states of a record are known. -/
structure CurveRecord.Known (record : CurveRecord) : Prop where
  state : record.state.Known
  lastActive : ∀ state ∈ record.lastActiveState, state.Known

/-- All records are known. -/
def Curves.Known (curves : Curves) : Prop :=
  ∀ venueId record, Dict.get? curves venueId = some record → record.Known

theorem requireKnownState_eq_ok {state : PumpCurveStateV1} (h : requireKnownState state = .ok ()) :
    state.Known := by
  simp only [requireKnownState, bind_eq_ok, refuseIf_eq_ok, exists_const] at h
  exact h

/-- Writing a known record keeps all records known. -/
theorem Curves.Known.set {curves : Curves} (h : Curves.Known curves) (venueId : VenueId)
    {record : CurveRecord} (hrecord : record.Known) : Curves.Known (curves.set venueId record) := by
  intro other found hfound
  rw [Dict.get?_set] at hfound
  split at hfound
  · exact Option.some.inj hfound ▸ hrecord
  · exact h other found hfound

theorem requireCurve_eq_ok {curves : Curves} {venueId : VenueId} {record : CurveRecord}
    (h : requireCurve curves venueId = .ok record) : curves.get? venueId = some record := by
  rw [requireCurve] at h
  split at h
  · rename_i found hfound
    cases h
    exact hfound
  · cases h

namespace PumpfunSnipingProtocolRuntime

variable {runtime : PumpfunSnipingProtocolRuntime} {t : Nat}

/-- **An event stores known states only.** -/
theorem applyEvent_known {candidate candidate' : Curves × List LaunchTarget}
    {event : CanonicalEvent} (hknown : Curves.Known candidate.1)
    (h : runtime.applyEvent t candidate event = .ok candidate') : Curves.Known candidate'.1 := by
  rw [applyEvent.eq_def] at h
  split at h
  · cases h
    exact hknown
  · split at h
    · cases h
      exact hknown
    · obtain ⟨_, _, h⟩ := bind_eq_ok.mp h
      obtain ⟨_, _, h⟩ := bind_eq_ok.mp h
      split at h
      · cases h
        exact hknown
      · obtain ⟨⟨curves, target⟩, happly, h⟩ := bind_eq_ok.mp h
        cases h
        simp only [applyLaunch, bind_eq_ok, refuseIf_eq_ok, exists_const, Except.ok.injEq,
          Prod.mk.injEq] at happly
        obtain ⟨_, _, _, state, _, _, heligible, rfl, _⟩ := happly
        obtain ⟨_, hstate, _⟩ := bind_eq_ok.mp heligible
        have hstateKnown := requireKnownState_eq_ok hstate
        refine hknown.set _ ⟨hstateKnown, fun last hlast => ?_⟩
        exact Option.some.inj hlast ▸ hstateKnown
      · obtain ⟨curves, happly, h⟩ := bind_eq_ok.mp h
        cases h
        simp only [applyTrade, bind_eq_ok, refuseIf_eq_ok, exists_const, Except.ok.injEq] at happly
        obtain ⟨_, record, hrecord, _, state, _, _, hstate, rfl⟩ := happly
        have hstateKnown := requireKnownState_eq_ok hstate
        refine hknown.set _ ⟨hstateKnown, fun last hlast => ?_⟩
        dsimp only at hlast
        split at hlast
        · exact Option.some.inj hlast ▸ hstateKnown
        · exact (hknown _ _ (requireCurve_eq_ok hrecord)).lastActive last hlast
      · obtain ⟨curves, happly, h⟩ := bind_eq_ok.mp h
        cases h
        simp only [applyLifecycle, bind_eq_ok, refuseIf_eq_ok, exists_const, Except.ok.injEq]
          at happly
        obtain ⟨_, record, hrecord, state, _, _, hstate, _, rfl⟩ := happly
        exact hknown.set _ ⟨requireKnownState_eq_ok hstate,
          (hknown _ _ (requireCurve_eq_ok hrecord)).lastActive⟩

theorem applyHistoricalGroup_known {curves curves' : Curves} {events : List CanonicalEvent}
    {launches : List LaunchTarget} (hknown : Curves.Known curves)
    (h : runtime.applyHistoricalGroup curves events t = .ok (curves', launches)) :
    Curves.Known curves' := by
  cases events with
  | nil => cases h
  | cons first rest =>
    obtain ⟨_, _, h⟩ := bind_eq_ok.mp h
    exact foldlM_keeps (P := fun candidate : Curves × List LaunchTarget => Curves.Known candidate.1)
      (fun _ _ _ _ hcandidate hstep => applyEvent_known hcandidate hstep) hknown h

end PumpfunSnipingProtocolRuntime

/-! ## States in seven integers -/

/-- `PumpPrimitiveStateV1`. -/
structure PumpPrimitiveState where
  virtualTokenReservesAtomic : Int
  virtualSolReservesLamports : Int
  realTokenReservesAtomic : Int
  realSolReservesLamports : Int
  tokenTotalSupplyAtomic : Int
  lifecycleCode : Int
  modeCode : Int
  deriving DecidableEq

/-- `_PRIMITIVE_LIFECYCLE_CODES`. -/
def primitiveLifecycleCode : PumpCurveLifecycle → Option Int
  | .active => some 1
  | .completed => some 2
  | .migrated => some 3
  | .unknown => none

/-- `_PRIMITIVE_MODE_CODES`. -/
def primitiveModeCode : PumpMode → Option Int
  | .normal => some 1
  | .token2022 => some 2
  | .cashback => some 3
  | .mayhem => some 4
  | .unknown => none

/-- `_PRIMITIVE_LIFECYCLE_VALUES`. -/
def primitiveLifecycleValue (code : Int) : Option PumpCurveLifecycle :=
  [PumpCurveLifecycle.active, .completed, .migrated].find? fun lifecycle =>
    primitiveLifecycleCode lifecycle = some code

/-- `_PRIMITIVE_MODE_VALUES`. -/
def primitiveModeValue (code : Int) : Option PumpMode :=
  [PumpMode.normal, .token2022, .cashback, .mayhem].find? fun mode =>
    primitiveModeCode mode = some code

/-- A state as seven integers. -/
def primitiveState (state : PumpCurveStateV1) : Option PumpPrimitiveState := do
  let lifecycleCode ← primitiveLifecycleCode state.lifecycle
  let modeCode ← primitiveModeCode state.mode
  some
    { virtualTokenReservesAtomic := state.virtualTokenReservesAtomic
      virtualSolReservesLamports := state.virtualSolReservesLamports
      realTokenReservesAtomic := state.realTokenReservesAtomic
      realSolReservesLamports := state.realSolReservesLamports
      tokenTotalSupplyAtomic := state.tokenTotalSupplyAtomic
      lifecycleCode
      modeCode }

/-- What a dictionary has for a key it was asked for, or a contract error. -/
def contractLookup {α : Type} (found : Option α) (code : ProtocolContractErrorCode) :
    Except Fault α :=
  match found with
  | some value => .ok value
  | none => .error (.protocolContract code)

/-- `decode_primitive_state_payload`. -/
def decodePrimitiveStatePayload (payload : List UInt8) : Except Fault PumpPrimitiveState := do
  let state ← decodeState payload
  requireKnownState state
  contractLookup (primitiveState state) .unknownProgramMode

/-- An integer as a field of a state; a negative one is no u64, as one beyond the range. -/
def unsigned (value : Int) : Nat := if value < 0 then MAX_U64 + 1 else value.toNat

/-- `_state_from_primitive`. -/
def stateFromPrimitive (state : PumpPrimitiveState) : Except Fault PumpCurveStateV1 := do
  let lifecycle ← contractLookup (primitiveLifecycleValue state.lifecycleCode) .unknownLifecycle
  let mode ← contractLookup (primitiveModeValue state.modeCode) .unknownProgramMode
  PumpCurveStateV1.make (unsigned state.virtualTokenReservesAtomic)
    (unsigned state.virtualSolReservesLamports) (unsigned state.realTokenReservesAtomic)
    (unsigned state.realSolReservesLamports) (unsigned state.tokenTotalSupplyAtomic) lifecycle mode

theorem unsigned_natCast (n : Nat) : unsigned n = n := by
  rw [unsigned, if_neg (by omega), Int.toNat_natCast]

/-- A known state can be packed. -/
theorem exists_primitiveState {state : PumpCurveStateV1} (h : state.Known) :
    ∃ primitive, primitiveState state = some primitive := by
  obtain ⟨hmode, hlifecycle⟩ := h
  cases hl : state.lifecycle <;> cases hm : state.mode <;>
    simp_all [primitiveState, primitiveLifecycleCode, primitiveModeCode]

theorem primitiveLifecycleValue_code {lifecycle : PumpCurveLifecycle} {code : Int}
    (h : primitiveLifecycleCode lifecycle = some code) :
    primitiveLifecycleValue code = some lifecycle := by
  cases lifecycle <;> cases h <;> rfl

theorem primitiveModeValue_code {mode : PumpMode} {code : Int}
    (h : primitiveModeCode mode = some code) : primitiveModeValue code = some mode := by
  cases mode <;> cases h <;> rfl

/-- **What is packed is unpacked again.** -/
theorem stateFromPrimitive_primitiveState {state : PumpCurveStateV1} {primitive : PumpPrimitiveState}
    (h : primitiveState state = some primitive) : stateFromPrimitive primitive = .ok state := by
  simp only [primitiveState, Option.bind_eq_bind, Option.bind_eq_some_iff] at h
  obtain ⟨lifecycleCode, hlifecycle, modeCode, hmode, h⟩ := h
  obtain rfl := Option.some.inj h
  rw [stateFromPrimitive, primitiveLifecycleValue_code hlifecycle, primitiveModeValue_code hmode]
  simp only [contractLookup, ok_bind, unsigned_natCast]
  exact PumpCurveStateV1.make_self state

/-! ## Valuations -/

/-- A record with its states packed: the state, and the last active one. -/
def CurveRecord.primitive (record : CurveRecord) :
    Option (PumpPrimitiveState × Option PumpPrimitiveState) := do
  let state ← primitiveState record.state
  match record.lastActiveState with
  | none => some (state, none)
  | some lastActive => do
    let lastActive ← primitiveState lastActive
    some (state, some lastActive)

namespace PumpfunSnipingProtocolRuntime

section Valuations

variable [DomainDigest] (runtime : PumpfunSnipingProtocolRuntime)

/-- `valuation_quote_from_primitive_state`. -/
def valuationQuoteFromPrimitiveState (intent : PositionIntent) (state : PumpPrimitiveState)
    (lastActiveState : Option PumpPrimitiveState) (lastActiveEffectiveAtUnixS : Option Nat)
    (tokensInAtomic effectiveAtUnixS : Nat) : Except Fault (Option ValuationQuote) := do
  let current ← stateFromPrimitive state
  if current.lifecycle = .active then
    let quote ← runtime.quoteSellState intent current tokensInAtomic effectiveAtUnixS
    .ok (some ⟨quote, false⟩)
  else
    match current.lifecycle, lastActiveState with
    | .migrated, some lastActiveState =>
      match lastActiveEffectiveAtUnixS with
      | none => .error (.protocolContract .unknownLifecycle)
      | some lastActiveEffectiveAtUnixS => do
        let lastActive ← stateFromPrimitive lastActiveState
        let quote ← runtime.quoteSellState intent lastActive tokensInAtomic
          lastActiveEffectiveAtUnixS
        .ok (some ⟨quote, true⟩)
    | _, _ => .ok none

variable {runtime}

/-- **A stored record is valued alike in both forms**, and is refused alike. -/
theorem valuationQuote_eq {curves : Curves} {intent : PositionIntent} {record : CurveRecord}
    (hrecord : runtime.intentCurve curves intent = .ok record) (hknown : record.Known) :
    ∃ state lastActive, record.primitive = some (state, lastActive) ∧
      ∀ tokens t, runtime.valuationQuote curves intent tokens t
        = runtime.valuationQuoteFromPrimitiveState intent state lastActive
            record.lastActiveEffectiveAtUnixS tokens t := by
  obtain ⟨state, hstate⟩ := exists_primitiveState hknown.state
  have hcurrent := stateFromPrimitive_primitiveState hstate
  have hsell : ∀ tokens t, runtime.quoteSell curves intent tokens t
      = runtime.quoteSellState intent record.state tokens t := by
    intro tokens t
    rw [quoteSell, hrecord, ok_bind]
  cases hlast : record.lastActiveState with
  | none =>
    refine ⟨state, none, ?_, fun tokens t => ?_⟩
    · rw [CurveRecord.primitive, hstate, hlast]
      rfl
    · rw [valuationQuote, hrecord, ok_bind, valuationQuoteFromPrimitiveState, hcurrent, ok_bind,
        hsell, hlast]
      cases record.state.lifecycle with
      | active => rfl
      | completed => rfl
      | migrated => rfl
      | unknown => rfl
  | some lastActive =>
    obtain ⟨packed, hpacked⟩ := exists_primitiveState (hknown.lastActive lastActive hlast)
    refine ⟨state, some packed, ?_, fun tokens t => ?_⟩
    · rw [CurveRecord.primitive, hstate, hlast]
      simp [hpacked]
    · rw [valuationQuote, hrecord, ok_bind, valuationQuoteFromPrimitiveState, hcurrent, ok_bind,
        hsell, hlast]
      cases record.state.lifecycle with
      | migrated =>
        cases record.lastActiveEffectiveAtUnixS with
        | none => rfl
        | some effective => simp [stateFromPrimitive_primitiveState hpacked]
      | active => rfl
      | completed => rfl
      | unknown => rfl

/-- **Groups are atomic, and a stored state has one value.**  After any sequence of groups, applied
or refused: a group that is refused leaves the stored curves as they were; and the curve of an
intent can be packed into integers, from which every valuation comes out as from the curve itself,
with the same refusals. -/
theorem groups_atomic (runtime : PumpfunSnipingProtocolRuntime)
    (groups : List (List CanonicalEvent × Nat)) :
    let memory := runtime.applyGroups .start groups
    (∀ events t e, ((runtime.applyGroupAt events t).run memory).1 = .error e →
      ((runtime.applyGroupAt events t).run memory).2.curves = memory.curves) ∧
    ∀ intent record, runtime.intentCurve memory.curves intent = .ok record →
      ∃ state lastActive, record.primitive = some (state, lastActive) ∧
        ∀ tokens t, runtime.valuationQuote memory.curves intent tokens t
          = runtime.valuationQuoteFromPrimitiveState intent state lastActive
              record.lastActiveEffectiveAtUnixS tokens t := by
  intro memory
  have hstart : Curves.Known RuntimeMemory.start.curves := by
    intro venueId record hrecord
    cases hrecord
  obtain ⟨hmemory, hknown⟩ : memory.current < memory.fresh ∧ Curves.Known memory.curves :=
    applyGroups_keeps
      (fun _ _ _ _ _ hcurves happly => applyHistoricalGroup_known hcurves happly) groups
      Nat.one_pos hstart
  refine ⟨fun events t e he => ?_, fun intent record hrecord => ?_⟩
  · obtain ⟨result, left, hrun, _, hleave⟩ : ∃ result left,
        (runtime.applyGroupAt events t).run memory = (result, left) ∧ left.current < left.fresh ∧
          Method.leave memory.curves (runtime.applyHistoricalGroup memory.curves events t)
            = (result, left.curves) :=
      run_applyGroupAt events hmemory
    rw [hrun] at he ⊢
    obtain rfl : result = .error e := he
    cases hgroup : runtime.applyHistoricalGroup memory.curves events t with
    | error e' =>
      rw [hgroup] at hleave
      exact (Prod.mk.inj hleave).2.symm
    | ok outcome =>
      rw [hgroup] at hleave
      cases (Prod.mk.inj hleave).1
  · refine valuationQuote_eq hrecord ?_
    obtain ⟨found, hfound, hrest⟩ := bind_eq_ok.mp hrecord
    obtain ⟨_, _, hrest⟩ := bind_eq_ok.mp hrest
    cases hrest
    exact hknown _ _ (requireCurve_eq_ok hfound)

end Valuations

end PumpfunSnipingProtocolRuntime

end OnchainBacktest
