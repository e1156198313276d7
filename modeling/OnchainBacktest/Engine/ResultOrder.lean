import OnchainBacktest.Engine.CopyPositions
import OnchainBacktest.Engine.DecidedLaunches
import OnchainBacktest.Engine.SnipingFinish
import OnchainBacktest.Lib.Keyset

/-!
# The order of the result rows

The output session takes result rows in the order of their target boundary and their identity, and
refuses a row that does not go above the last one.  A copy run sorts its positions by this key
before it publishes them, so its rows are always taken (`copy_keys_increase`).  A sniping run emits
its records in the order its launches were decided in, which inside one transaction is the order of
the event indices; its rows are taken exactly when the identities of the launches decided in one
transaction come out in this order too (`roundtrip_keys_increase_iff`).
-/

set_option autoImplicit false

namespace OnchainBacktest

open Checked

/-- The keyset position of a result row: its target boundary, then its identity. -/
abbrev RowKey := Nat ×ₗ Nat

/-- `RunOutputIntegrityError`. -/
structure RunOutputIntegrityError where
  message : String

def roundtripKey (record : RoundTripRecord) : RowKey :=
  toLex (record.targetPosition.boundaryOrdinal, record.roundtripId.hex.val)

def copyPositionKey [DomainDigest] (record : CopyPositionRecord) : RowKey :=
  toLex (record.intent.signal.position.boundaryOrdinal, record.intent.roundtripId.hex.val)

/-- `append_roundtrip`, as far as the order of the rows goes. -/
def appendRoundtrips (records : List RoundTripRecord) :
    Except RunOutputIntegrityError (Keyset.Table RoundTripRecord RowKey) :=
  Keyset.appendAll roundtripKey ⟨"round-trip rows must be strictly keyset ordered"⟩ records

/-- `append_copy_position`, as far as the order of the rows goes. -/
def appendCopyPositions [DomainDigest] (records : List CopyPositionRecord) :
    Except RunOutputIntegrityError (Keyset.Table CopyPositionRecord RowKey) :=
  Keyset.appendAll copyPositionKey ⟨"copy positions must be strictly keyset ordered"⟩ records

/-! ## Copy runs -/

section Copy

variable [DomainDigest] {setup : CopySetup}

/-- The key a position is published under. -/
def publishedKey (state : CopyExecutionPosition) : RowKey :=
  toLex (state.intent.signal.position.boundaryOrdinal, state.intent.roundtripId.hex.val)

instance publishedBefore_total : Std.Total publishedBefore := ⟨fun _ _ => le_total _ _⟩

instance publishedBefore_trans : IsTrans CopyExecutionPosition publishedBefore :=
  ⟨fun _ _ _ h h' => le_trans h h'⟩

omit [DomainDigest] in
/-- The identities of the positions of a run differ as numbers. -/
theorem Keyed.hex_nodup {states : Dict ContentDigest CopyExecutionPosition} (h : Keyed states) :
    (states.entries.map fun e => e.2.intent.roundtripId.hex.val).Nodup := by
  have hkeys : states.entries.map (fun e => e.2.intent.roundtripId.hex.val)
      = states.keys.map fun id => id.hex.val := by
    rw [Dict.keys, List.map_map]
    exact List.map_congr_left fun e he => by rw [(h e he).1]; rfl
  rw [hkeys]
  refine states.nodup_keys.map_on fun a ha b hb hhex => ?_
  obtain ⟨ea, hea, rfl⟩ := List.mem_map.mp ha
  obtain ⟨eb, heb, rfl⟩ := List.mem_map.mp hb
  -- two bare digests of one number are one
  have hprefix := (h ea hea).2.trans (h eb heb).2.symm
  obtain ⟨⟨hexA, _⟩, _⟩ := ea
  obtain ⟨⟨hexB, _⟩, _⟩ := eb
  cases hprefix
  exact congrArg (ContentDigest.mk · _) (Fin.val_injective hhex)

omit [DomainDigest] in
/-- Published positions strictly increase. -/
theorem publishedPositions_increase {run : CopyRun} (h : Keyed run.states) :
    ((publishedPositions run).map publishedKey).Pairwise (· < ·) := by
  have hsorted : (publishedPositions run).Pairwise publishedBefore :=
    List.pairwise_insertionSort _ _
  have hperm : (publishedPositions run).Perm (run.states.entries.map Prod.snd) :=
    List.perm_insertionSort _ _
  have hnodup : ((publishedPositions run).map fun s => s.intent.roundtripId.hex.val).Nodup := by
    refine (hperm.map _).nodup_iff.mpr ?_
    rw [List.map_map]
    exact h.hex_nodup
  rw [List.pairwise_map]
  refine (hsorted.and (List.pairwise_map.mp hnodup)).imp fun hab => ?_
  refine lt_of_le_of_ne hab.1 fun he => hab.2 ?_
  exact congrArg (fun key : RowKey => (ofLex key).2) he

/-- **The records of a completed copy run come in strictly increasing key order.** -/
theorem copy_keys_increase {rounds : Nat} {source : HistoricalEventSource} {output : CopyRunOutput}
    (h : runCopyBacktest setup rounds source = .ok (some output)) :
    (output.records.map copyPositionKey).Pairwise (· < ·) := by
  obtain ⟨hreplay, hrecords⟩ := runCopyBacktest_eq_ok h
  have hincrease := publishedPositions_increase (keyed_replayCopy hreplay)
  have hkeys : output.records.map copyPositionKey
      = (publishedPositions output.run).map publishedKey := by
    generalize publishedPositions output.run = positions at hrecords
    generalize output.records = records at hrecords
    induction hrecords with
    | nil => rfl
    | cons hfrozen _ ih =>
      rw [List.map_cons, List.map_cons, ih, copyPositionKey, freezeCopyPosition_intent hfrozen]
      rfl
  rw [hkeys]
  exact hincrease

end Copy

/-! ## Sniping runs -/

section Sniping

variable [DomainDigest] {setup : SnipingSetup} {source : HistoricalEventSource}

/-- The key of the row a launch ends as. -/
def SnipingSetup.launchKey (setup : SnipingSetup) (target : LaunchTarget) : RowKey :=
  toLex (target.position.boundaryOrdinal, (setup.strategy.roundtripId target).hex.val)

/-- The records of a completed run have the keys of the launches it decided, in their order. -/
theorem roundtripKeys_of_run {output : SnipingRunOutput} (h : run setup source = .ok output) :
    output.records.map roundtripKey = (decidedLaunches setup source).map setup.launchKey := by
  obtain ⟨state, hstate, hfinished⟩ := run_eq_ok h
  have hcore := (reachable_of_simulate hstate).1.core
  have hrecords := hfinished.records
  rw [← targets_of_simulate hstate, RunState.targets, List.map_map]
  have hlawful : ∀ e ∈ state.states.entries, setup.strategy.roundtripId e.2.target = e.1 :=
    fun e he => (hcore.orders.lawful e.1 e.2 (Dict.get?_eq_some_iff.mpr he)).roundtripId_eq
  generalize state.states.entries = entries at hrecords hlawful
  generalize output.records = records at hrecords
  induction hrecords with
  | nil => rfl
  | @cons e record entries records hfinal _ ih =>
    have hkey : roundtripKey record = setup.launchKey e.2.target := by
      have hf := finalizeRoundtrip_eq_ok hfinal
      obtain ⟨_, _, _, _, _, _, _, _, _, _, _, _, rfl⟩ := hf.built
      rw [SnipingSetup.launchKey, hlawful e List.mem_cons_self]
      rfl
    rw [List.map_cons, List.map_cons, hkey, ih fun e he => hlawful e (List.mem_cons_of_mem _ he)]
    rfl

omit [DomainDigest] in
/-- A launch of a group stands at the boundary of the group. -/
theorem boundary_of_groupLaunches {group : List CanonicalEvent} {target : LaunchTarget}
    (hgroup : IsGroup setup.clock group) (h : target ∈ groupLaunches group) :
    target.position.boundaryOrdinal = groupBoundary group := by
  rw [groupLaunches, List.mem_insertionSort, List.mem_filterMap] at h
  obtain ⟨event, hevent, hlaunch⟩ := h
  have hboundary := hgroup.boundary event hevent
  rw [← hboundary]
  cases event with
  | tokenLaunch launch =>
    rw [CanonicalEvent.pumpLaunch?] at hlaunch
    split at hlaunch
    · cases hlaunch
      rfl
    · cases hlaunch
  | block _ => cases hlaunch
  | venueTrade _ => cases hlaunch
  | venueLifecycle _ => cases hlaunch

/-- The launches that are decided in one transaction have increasing identities. -/
def IdentitiesIncrease (setup : SnipingSetup) (group : List CanonicalEvent) : Prop :=
  ((groupLaunches group).filter setup.decides).Pairwise fun a b =>
    (setup.strategy.roundtripId a).hex < (setup.strategy.roundtripId b).hex

/-- The keys of decided launches increase exactly when they do in every transaction. -/
theorem launchKeys_increase_iff
    (hgrouped : WellGrouped setup.clock (eventGroups setup.clock source.events).groups) :
    ((decidedLaunches setup source).map setup.launchKey).Pairwise (· < ·) ↔
      ∀ group ∈ (eventGroups setup.clock source.events).groups, IdentitiesIncrease setup group := by
  generalize hgroups : (eventGroups setup.clock source.events).groups = groups at hgrouped
  have hboundary : ∀ group ∈ groups, ∀ target ∈ (groupLaunches group).filter setup.decides,
      target.position.boundaryOrdinal = groupBoundary group := fun group hg target ht =>
    boundary_of_groupLaunches (hgrouped.isGroup group hg) (List.mem_filter.mp ht).1
  have hacross : groups.Pairwise fun a b => ∀ s ∈ (groupLaunches a).filter setup.decides,
      ∀ t ∈ (groupLaunches b).filter setup.decides, setup.launchKey s < setup.launchKey t := by
    refine List.Pairwise.imp_of_mem (fun ha hb hlt s hs t ht => ?_) hgrouped.increasing
    refine Prod.Lex.lt_iff.mpr (.inl ?_)
    show s.position.boundaryOrdinal < t.position.boundaryOrdinal
    rw [hboundary _ ha s hs, hboundary _ hb t ht]
    exact hlt
  rw [decidedLaunches, hgroups, List.filter_flatMap, List.pairwise_map, List.pairwise_flatMap,
    and_iff_left hacross]
  refine forall₂_congr fun group hg => List.Pairwise.iff_of_mem fun ha hb => ?_
  rw [SnipingSetup.launchKey, SnipingSetup.launchKey, Prod.Lex.lt_iff]
  simp [hboundary group hg _ ha, hboundary group hg _ hb]

/-- **The records of a completed sniping run come in strictly increasing key order exactly when the
launches it decides in one transaction have increasing identities.** -/
theorem roundtrip_keys_increase_iff {output : SnipingRunOutput}
    (h : run setup source = .ok output) :
    (output.records.map roundtripKey).Pairwise (· < ·) ↔
      ∀ group ∈ (eventGroups setup.clock source.events).groups, IdentitiesIncrease setup group := by
  rw [roundtripKeys_of_run h]
  obtain ⟨state, hstate, _⟩ := run_eq_ok h
  obtain ⟨_, hstate⟩ := check_bind_eq_ok.mp hstate
  obtain ⟨counts, hpre, _⟩ := bind_eq_ok.mp hstate
  exact launchKeys_increase_iff (preflight_eq_ok hpre).1.wellGrouped

end Sniping

/-! ## What the session makes of a run -/

/-- **The session takes the rows of a completed sniping run exactly when the launches decided in one
transaction have increasing identities, and those of every completed copy run.** -/
theorem session_takes_rows [DomainDigest] {setup : SnipingSetup} {source : HistoricalEventSource}
    {output : SnipingRunOutput} (h : run setup source = .ok output) {copySetup : CopySetup}
    {rounds : Nat} {copySource : HistoricalEventSource} {copyOutput : CopyRunOutput}
    (hcopy : runCopyBacktest copySetup rounds copySource = .ok (some copyOutput)) :
    (((output.records.map roundtripKey).Pairwise (· < ·) ∧
        ∃ table, appendRoundtrips output.records = .ok table ∧ table.rows = output.records) ↔
      ∀ group ∈ (eventGroups setup.clock source.events).groups, IdentitiesIncrease setup group) ∧
    (copyOutput.records.map copyPositionKey).Pairwise (· < ·) ∧
      ∃ table, appendCopyPositions copyOutput.records = .ok table ∧
        table.rows = copyOutput.records := by
  have hcopied := copy_keys_increase hcopy
  refine ⟨?_, hcopied, Keyset.appendAll_iff.mpr hcopied⟩
  rw [appendRoundtrips, Keyset.appendAll_iff, and_self]
  exact roundtrip_keys_increase_iff h

attribute [local instance] sampleDigest in
/-- A run with one launch, and a copy run with one position. -/
theorem session_takes_rows_sample : ∃ output copyOutput, run sampleSetup sampleSource = .ok output ∧
    runCopyBacktest copySampleSetup 8 copySampleSource = .ok (some copyOutput) ∧
    (copyOutput.records.map copyPositionKey).Pairwise (· < ·) := by
  obtain ⟨output, hrun⟩ := run_sample
  obtain ⟨copyOutput, hcopy, _⟩ := runCopyBacktest_sample
  exact ⟨output, copyOutput, hrun, hcopy, (session_takes_rows hrun hcopy).2.1⟩

/-! ### Two launches in one transaction -/

section Paired

/-- A second launch of the same developer, one event later in the same transaction. -/
def pairedEvent : TokenLaunchEvent :=
  { sampleEvent with
    envelope :=
      { sampleEvent.envelope with
        position := { samplePosition with
          eventIndex := some 1
          event_le := by decide }
        canonicalEventId := { hex := 10 }
        stableCausalId := { hex := 11 }
        exact_indexed := by decide }
    assetId := ⟨"SECOND"⟩
    venueId := ⟨"second"⟩
    assets_ne := by decide }

def pairedSource : HistoricalEventSource := ⟨[sampleLaunch, .tokenLaunch pairedEvent], some 2⟩

/-- The event index a hashed document has in its second place. -/
def eventIndexOf : List (String × DigestField) → Nat
  | _ :: (_, .integer index) :: _ => index.toNat
  | _ => 0

/-- A digest that falls as the event index rises. -/
@[reducible] def fallingDigest : DomainDigest :=
  ⟨fun _ fields => { hex := Fin.ofNat _ (10 * fields.length - eventIndexOf fields) }⟩

/-- The run once the group of both launches is applied. -/
def pairedOpened : RunState :=
  { sampleOpening with
    curves := sampleOpened.curves.set pairedEvent.venueId
      ⟨pairedEvent.assetId, pairedEvent.quoteAssetId, sampleCurve, some sampleCurve,
        some 1700000000⟩
    desk := sampleOpening.desk.audit (.historicalGroupApplied sampleLaunch.boundaryOrdinal
      [sampleEvent.envelope.canonicalEventId, pairedEvent.envelope.canonicalEventId]
      sampleEvent.envelope.transactionGroupId)
    counts := { eventCount := 2, deliveredEventCount := 2, groupCount := 1 } }

theorem applyGroup_paired :
    applyGroup sampleSetup sampleOpening sampleLaunch [sampleLaunch, .tokenLaunch pairedEvent]
      = .ok (pairedOpened, [sampleEvent.target, pairedEvent.target]) := by
  have hblock : sampleSetup.clock.blockTimeForBlock (boundaryPosition sampleLaunch).blockOrdinal
      = .ok 1700000000000000000 := by decide
  have htime : 1700000000000000000 / 1000000000 = 1700000000 := by norm_num
  have hfirst : decodeState sampleEvent.protocolPayload = .ok sampleCurve := by
    rw [sampleEvent, decodeState_encodeState]
  have hpayload : pairedEvent.protocolPayload = sampleEvent.protocolPayload := by rw [pairedEvent]
  have hsecond : decodeState pairedEvent.protocolPayload = .ok sampleCurve := by
    rw [hpayload, hfirst]
  have hlaunch := @applyEvent_launch sampleSetup.protocol sampleOpening.curves [] sampleEvent
    sampleCurve 1700000000 rfl rfl rfl rfl rfl rfl hfirst rfl
  have hpaired := @applyEvent_launch sampleSetup.protocol sampleOpened.curves [sampleEvent.target]
    pairedEvent sampleCurve 1700000000 rfl rfl rfl rfl rfl rfl hsecond rfl
  have hone : ¬ ∃ event ∈ [CanonicalEvent.tokenLaunch pairedEvent],
      event.envelope.boundaryOrdinal ≠ sampleLaunch.envelope.boundaryOrdinal ∨
        event.envelope.transactionGroupId ≠ sampleLaunch.envelope.transactionGroupId := by
    decide
  have hgroup : sampleSetup.protocol.applyHistoricalGroup sampleOpening.curves
      [sampleLaunch, .tokenLaunch pairedEvent] 1700000000
      = .ok (pairedOpened.curves, [sampleEvent.target, pairedEvent.target]) := by
    rw [PumpfunSnipingProtocolRuntime.applyHistoricalGroup, refuseIf_of_not hone, ok_bind,
      List.foldlM_cons, sampleLaunch, hlaunch, ok_bind, List.foldlM_cons]
    exact (congrArg (· >>= _) hpaired).trans (Eq.refl _)
  rewrite [applyGroup, hblock, ok_bind, htime, hgroup]
  exact Eq.refl _

attribute [local instance] fallingDigest

theorem openBoundary_paired : ∃ opening, openingState sampleSetup = .ok opening ∧
    nextBoundary [[sampleLaunch, .tokenLaunch pairedEvent]] opening.desk.scheduled
      = some sampleLaunch.boundaryOrdinal ∧
    openBoundary sampleSetup [[sampleLaunch, .tokenLaunch pairedEvent]] opening
        sampleLaunch.boundaryOrdinal
      = .ok (popDecisions [] (boundaryPosition sampleLaunch) sampleLaunch.boundaryOrdinal
        pairedOpened [sampleEvent.target, pairedEvent.target]) := by
  refine ⟨sampleOpening, rfl, rfl, ?_⟩
  rw [openBoundary, if_pos rfl, applyGroup_paired]
  rfl

theorem eventGroups_paired : (eventGroups sampleSetup.clock pairedSource.events).groups
    = [[sampleLaunch, .tokenLaunch pairedEvent]] := by
  have hlaunch : admitEvent sampleSetup.clock none sampleLaunch = .ok () := by decide
  have hpaired : admitEvent sampleSetup.clock (some sampleLaunch) (.tokenLaunch pairedEvent)
      = .ok () := by decide
  have hsame : sameGroup (.tokenLaunch pairedEvent) sampleLaunch := by decide
  rw [show pairedSource.events = [sampleLaunch, .tokenLaunch pairedEvent] from rfl, eventGroups,
    hlaunch]
  simp only [eventGroupsFrom, hpaired, if_pos hsame]
  rfl

/-- The identities of the two launches fall. -/
theorem pairedRun :
    ((run sampleSetup pairedSource).toOption.map fun output => output.records.map roundtripKey)
      = some [toLex (sampleLaunch.boundaryOrdinal, 70),
        toLex (sampleLaunch.boundaryOrdinal, 69)] := by
  obtain ⟨opening, hopening, hnext, hopen⟩ := openBoundary_paired
  have hchain : validateChainContract sampleSetup = .ok () := by decide
  have hpreflight : preflightSourceClockCoverage sampleSetup pairedSource = .ok (2, 1) := by
    decide
  have hfuel : fuelOf [[sampleLaunch, .tokenLaunch pairedEvent]] = 6 + 1 := rfl
  rw [run, simulate, hchain, ok_bind, hpreflight, ok_bind]
  simp only [hopening, ok_bind, eventGroups_paired, hfuel, runLoop, hnext, processBoundary, hopen]
  decide

/-- **Two launches of one transaction whose identities fall are emitted in the order of the chain,
and the session refuses the rows of the completed run.** -/
theorem paired_launches_refused : ∃ output, run sampleSetup pairedSource = .ok output ∧
    ¬ (output.records.map roundtripKey).Pairwise (· < ·) ∧
    ∀ table, appendRoundtrips output.records ≠ .ok table := by
  have h := pairedRun
  cases hrun : run sampleSetup pairedSource with
  | error e =>
    rw [hrun] at h
    cases h
  | ok output =>
    rw [hrun] at h
    have hrecords : output.records.map roundtripKey
        = [toLex (sampleLaunch.boundaryOrdinal, 70), toLex (sampleLaunch.boundaryOrdinal, 69)] :=
      Option.some.inj h
    have hkeys : ¬ (output.records.map roundtripKey).Pairwise (· < ·) := by
      rw [hrecords]
      decide
    exact ⟨output, rfl, hkeys, fun table htable => hkeys (Keyset.appendAll_eq_ok.mp htable).1⟩

end Paired

end OnchainBacktest
