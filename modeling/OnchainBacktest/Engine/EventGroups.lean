import OnchainBacktest.Engine.Sniping

/-!
# What a grouped stream is

A stream that `eventGroups` cuts without a fault is in order: every event stands on the clock's
chain and, unless it belongs to the block as a whole, on the clock; the events of a group share
boundary and group identity and are strictly sorted; the boundaries of the groups strictly
increase; and no event is lost (`eventGroups_wellGrouped`).  In terms of the stream alone, the
groups partition it (`eventGroups_regrouped`).
-/

set_option autoImplicit false

namespace OnchainBacktest

open Checked

/-- The event stands on the chain of the clock, and on the clock if it is in a transaction. -/
structure AdmittedEvent (clock : CompactTransactionClock) (event : CanonicalEvent) : Prop where
  network : event.envelope.position.networkId = clock.networkId
  schema : event.envelope.position.positionSchemaId = clock.positionSchemaId
  covered : 0 ≤ event.envelope.position.transactionIndex →
    ∃ row, clock.Covers event.envelope.position row

/-- A group: not empty, of one boundary and one group identity, strictly sorted. -/
structure IsGroup (clock : CompactTransactionClock) (group : List CanonicalEvent) : Prop where
  nonempty : group ≠ []
  admitted : ∀ event ∈ group, AdmittedEvent clock event
  boundary : ∀ event ∈ group, event.boundaryOrdinal = groupBoundary group
  same : ∀ a ∈ group, ∀ b ∈ group, sameGroup a b
  sorted : group.Pairwise fun a b => canonicalEventSortKey a < canonicalEventSortKey b

/-- Groups in chain order. -/
structure WellGrouped (clock : CompactTransactionClock) (groups : List (List CanonicalEvent)) :
    Prop where
  isGroup : ∀ group ∈ groups, IsGroup clock group
  increasing : groups.Pairwise fun a b => groupBoundary a < groupBoundary b

section Groups

variable {clock : CompactTransactionClock}

theorem WellGrouped.tail {group : List CanonicalEvent} {groups : List (List CanonicalEvent)}
    (h : WellGrouped clock (group :: groups)) : WellGrouped clock groups :=
  ⟨fun g hg => h.isGroup g (List.mem_cons_of_mem _ hg), (List.pairwise_cons.mp h.increasing).2⟩

/-- **What an event that continues a stream is.** -/
theorem admitEvent_eq_ok {previous : Option CanonicalEvent} {event : CanonicalEvent}
    (h : admitEvent clock previous event = .ok ()) :
    AdmittedEvent clock event ∧ ∀ p ∈ previous,
      canonicalEventSortKey p < canonicalEventSortKey event ∧
        (event.boundaryOrdinal = p.boundaryOrdinal → sameGroup event p) := by
  obtain ⟨hchain, h⟩ := check_bind_eq_ok.mp h
  rw [refuseIf_eq_ok, not_or, not_not, not_not] at hchain
  obtain ⟨hcovered, h⟩ := check_bind_eq_ok.mp h
  obtain ⟨horder, hmixed⟩ := check_bind_eq_ok.mp h
  rw [refuseIf_eq_ok] at horder hmixed
  refine ⟨⟨hchain.1, hchain.2, fun hn => ?_⟩, fun p hp => ⟨?_, fun hb => ⟨hb, ?_⟩⟩⟩
  · rw [requireOnClock, if_pos hn] at hcovered
    obtain ⟨row, hrow, _⟩ := bind_eq_ok.mp hcovered
    exact ⟨row, CompactTransactionClock.requirePosition_eq_ok.mp hrow⟩
  · by_contra hle
    exact horder ⟨p, hp, not_lt.mp hle⟩
  · by_contra hne
    exact hmixed ⟨p, hp, hb, hne⟩

theorem sameGroup.symm {a b : CanonicalEvent} (h : sameGroup a b) : sameGroup b a :=
  ⟨h.1.symm, h.2.symm⟩

theorem sameGroup.trans {a b c : CanonicalEvent} (h : sameGroup a b) (h' : sameGroup b c) :
    sameGroup a c := ⟨h.1.trans h'.1, h.2.trans h'.2⟩

theorem boundary_le_of_key_lt {a b : CanonicalEvent}
    (h : canonicalEventSortKey a < canonicalEventSortKey b) :
    a.boundaryOrdinal ≤ b.boundaryOrdinal := by
  rw [canonicalEventSortKey, canonicalEventSortKey, Prod.Lex.lt_iff] at h
  rcases h with h | h
  · exact Nat.le_of_lt h
  · exact Nat.le_of_eq h.1

/-- A group that ends in `previous`, read so far. -/
structure OpenGroup (clock : CompactTransactionClock) (previous : CanonicalEvent)
    (current : List CanonicalEvent) : Prop extends IsGroup clock current where
  last : previous ∈ current
  below : ∀ event ∈ current, canonicalEventSortKey event ≤ canonicalEventSortKey previous

theorem OpenGroup.singleton {event : CanonicalEvent} (h : AdmittedEvent clock event) :
    OpenGroup clock event [event] where
  nonempty := List.cons_ne_nil _ _
  admitted e he := by
    rw [List.mem_singleton.mp he]
    exact h
  boundary e he := by
    rw [List.mem_singleton.mp he]
    rfl
  same a ha b hb := by
    rw [List.mem_singleton.mp ha, List.mem_singleton.mp hb]
    exact ⟨rfl, rfl⟩
  sorted := List.pairwise_singleton _ _
  last := List.mem_singleton_self event
  below e he := by rw [List.mem_singleton.mp he]

theorem groupBoundary_append {current : List CanonicalEvent} (hne : current ≠ [])
    (events : List CanonicalEvent) :
    groupBoundary (current ++ events) = groupBoundary current := by
  cases current with
  | nil => exact absurd rfl hne
  | cons e rest => rfl

theorem OpenGroup.push {previous event : CanonicalEvent} {current : List CanonicalEvent}
    (h : OpenGroup clock previous current) (ha : AdmittedEvent clock event)
    (hlt : canonicalEventSortKey previous < canonicalEventSortKey event)
    (hs : sameGroup event previous) : OpenGroup clock event (current ++ [event]) := by
  have hb : event.boundaryOrdinal = groupBoundary (current ++ [event]) := by
    rw [groupBoundary_append h.nonempty, hs.1, h.boundary previous h.last]
  have hall : ∀ e ∈ current ++ [event], sameGroup e previous := by
    intro e he
    rcases List.mem_append.mp he with he | he
    · exact h.same e he previous h.last
    · rw [List.mem_singleton.mp he]
      exact hs
  refine ⟨⟨by simp, fun e he => ?_, fun e he => ?_, fun a ha b hb => ?_, ?_⟩, by simp,
    fun e he => ?_⟩
  · rcases List.mem_append.mp he with he | he
    · exact h.admitted e he
    · rw [List.mem_singleton.mp he]
      exact ha
  · rw [(hall e he).1, ← hs.1, hb]
  · exact (hall a ha).trans (hall b hb).symm
  · rw [List.pairwise_append]
    refine ⟨h.sorted, List.pairwise_singleton _ _, fun e he e' he' => ?_⟩
    rw [List.mem_singleton.mp he']
    exact (h.below e he).trans_lt hlt
  · rcases List.mem_append.mp he with he | he
    · exact ((h.below e he).trans_lt hlt).le
    · rw [List.mem_singleton.mp he]

theorem eventGroupsFrom_wellGrouped (events : List CanonicalEvent) {previous : CanonicalEvent}
    {current : List CanonicalEvent} (h : OpenGroup clock previous current)
    (hfault : (eventGroupsFrom clock previous current events).fault = none) :
    WellGrouped clock (eventGroupsFrom clock previous current events).groups ∧
      (eventGroupsFrom clock previous current events).groups.flatten = current ++ events ∧
      ∀ group ∈ (eventGroupsFrom clock previous current events).groups,
        groupBoundary current ≤ groupBoundary group := by
  induction events generalizing previous current with
  | nil =>
    refine ⟨⟨fun g hg => ?_, List.pairwise_singleton _ _⟩, ?_, fun g hg => ?_⟩
    · rw [eventGroupsFrom, List.mem_singleton] at hg
      exact hg ▸ h.toIsGroup
    · simp [eventGroupsFrom]
    · rw [eventGroupsFrom, List.mem_singleton] at hg
      exact Nat.le_of_eq (congrArg groupBoundary hg.symm)
  | cons event rest ih =>
    rw [eventGroupsFrom] at hfault ⊢
    split at hfault
    · cases hfault
    · rename_i hadmit
      obtain ⟨ha, hp⟩ := admitEvent_eq_ok hadmit
      obtain ⟨hlt, hmixed⟩ := hp previous rfl
      split at hfault
      · rename_i hs
        rw [if_pos hs]
        obtain ⟨h1, h2, h3⟩ := ih (h.push ha hlt hs) hfault
        refine ⟨h1, by rw [h2, List.append_assoc]; rfl, fun g hg => ?_⟩
        rw [← groupBoundary_append h.nonempty [event]]
        exact h3 g hg
      · rename_i hs
        rw [if_neg hs]
        obtain ⟨h1, h2, h3⟩ := ih (OpenGroup.singleton ha) hfault
        have hbound : groupBoundary current < groupBoundary [event] := by
          refine lt_of_le_of_ne ?_ fun he => hs (hmixed ?_)
          · rw [← h.boundary previous h.last]
            exact boundary_le_of_key_lt hlt
          · rw [h.boundary previous h.last, he]
            rfl
        refine ⟨⟨fun g hg => ?_, ?_⟩, ?_, fun g hg => ?_⟩
        · rcases List.mem_cons.mp hg with rfl | hg
          · exact h.toIsGroup
          · exact h1.isGroup g hg
        · exact List.pairwise_cons.mpr ⟨fun g hg => hbound.trans_le (h3 g hg), h1.increasing⟩
        · rw [List.flatten_cons, h2]
          rfl
        · rcases List.mem_cons.mp hg with rfl | hg
          · exact le_rfl
          · exact hbound.le.trans (h3 g hg)

/-- **A stream that is cut without a fault is in chain order, and no event of it is lost.** -/
theorem eventGroups_wellGrouped {events : List CanonicalEvent}
    (hfault : (eventGroups clock events).fault = none) :
    WellGrouped clock (eventGroups clock events).groups ∧
      (eventGroups clock events).groups.flatten = events := by
  cases events with
  | nil => exact ⟨⟨by simp [eventGroups], by simp [eventGroups]⟩, rfl⟩
  | cons event rest =>
    rw [eventGroups] at hfault ⊢
    split at hfault
    · cases hfault
    · rename_i hadmit
      obtain ⟨ha, _⟩ := admitEvent_eq_ok hadmit
      obtain ⟨h1, h2, _⟩ := eventGroupsFrom_wellGrouped rest (OpenGroup.singleton ha) hfault
      exact ⟨h1, h2⟩

/-- The groups are the stream again: each has one boundary and one identity, the boundaries never
decrease, and no identity comes back once another group has started. -/
structure Regrouped (events : List CanonicalEvent) (groups : List (List CanonicalEvent)) : Prop where
  flatten : groups.flatten = events
  uniform : ∀ group ∈ groups, group ≠ [] ∧ ∀ a ∈ group, ∀ b ∈ group, sameGroup a b
  ordered : groups.Pairwise fun earlier later => ∀ a ∈ earlier, ∀ b ∈ later,
    a.boundaryOrdinal ≤ b.boundaryOrdinal ∧ ¬ sameGroup a b

theorem eventGroups_regrouped {events : List CanonicalEvent}
    (hfault : (eventGroups clock events).fault = none) :
    Regrouped events (eventGroups clock events).groups := by
  obtain ⟨hgrouped, hflatten⟩ := eventGroups_wellGrouped hfault
  refine ⟨hflatten, fun group hg => ?_, ?_⟩
  · exact ⟨(hgrouped.isGroup group hg).nonempty, (hgrouped.isGroup group hg).same⟩
  · refine hgrouped.increasing.imp_of_mem fun {earlier later} he hl hlt a ha b hb => ?_
    rw [← (hgrouped.isGroup earlier he).boundary a ha,
      ← (hgrouped.isGroup later hl).boundary b hb] at hlt
    exact ⟨hlt.le, fun hsame => hlt.ne hsame.1⟩

end Groups

/-! ## What the preflight has checked -/

section Preflight

variable {setup : SnipingSetup} {source : HistoricalEventSource}

/-- What the preflight leaves nothing to ask about. -/
structure Preflighted (setup : SnipingSetup) (source : HistoricalEventSource) : Prop where
  wellGrouped : WellGrouped setup.clock (eventGroups setup.clock source.events).groups
  flatten : (eventGroups setup.clock source.events).groups.flatten = source.events
  events : ∀ event ∈ source.events, preflightEvent setup event = .ok ()

theorem preflight_eq_ok {counts : Nat × Nat}
    (h : preflightSourceClockCoverage setup source = .ok counts) :
    Preflighted setup source ∧ counts = (source.events.length,
      (eventGroups setup.clock source.events).groups.length) := by
  obtain ⟨hevents, h⟩ := check_bind_eq_ok.mp h
  split at h
  · cases h
  · rename_i hfault
    obtain ⟨_, h⟩ := check_bind_eq_ok.mp h
    obtain ⟨hgrouped, hflatten⟩ := eventGroups_wellGrouped hfault
    refine ⟨⟨hgrouped, hflatten, fun event he => ?_⟩, ?_⟩
    · rw [← hflatten, List.mem_flatten] at he
      obtain ⟨group, hg, he⟩ := he
      exact forM_eq_ok (forM_eq_ok hevents group hg) event he
    · cases h
      rw [hflatten]

/-- **A launch in the decision range has a whole settlement path.** -/
theorem preflightEvent_launch {launch : TokenLaunchEvent}
    (h : preflightEvent setup (.tokenLaunch launch) = .ok ())
    (hc : setup.config.decisionRange.containsPosition launch.envelope.position = .ok true) :
    ∃ path, setup.path launch.envelope.position = .ok path := by
  rw [preflightEvent] at h
  simp only [hc, ok_bind, if_true] at h
  obtain ⟨path, hpath, _⟩ := bind_eq_ok.mp h
  exact ⟨path, hpath⟩

end Preflight

end OnchainBacktest
