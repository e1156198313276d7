import OnchainBacktest.Engine.MoveEffects
import OnchainBacktest.Engine.SnipingSchedule

/-!
# The laws of a run

Every moment of a run obeys two sets of laws: those of time (`Timed`) and those of its orders
(`OrderLaws`): each round trip is in a lawful state, the queue holds exactly the actions the round
trips wait for, and each action is due where its round trip says.

Under these laws a step of the run is one of three turns (`Turn`): it leaves the orders as they
are, it starts a round trip, or it makes the move of the one round trip whose action is due.  What
is proved of runs is proved by cases on turns.
-/

set_option autoImplicit false

namespace OnchainBacktest

open Checked

/-! ## What a move counts as -/

/-- Its launch was suppressed. -/
def RoundTripState.skipped (s : RoundTripState) : Bool := s.status == .cooldownSkipped

theorem RoundTripState.buyAccepted_of_bought {s : RoundTripState} (h : s.bought = true) :
    s.buyAccepted = true := by
  rw [buyAccepted, Bool.or_eq_true]
  exact .inr h

section Tallies

variable [DomainDigest] {setup : SnipingSetup} {rid : ContentDigest} {boundary : Nat}
  {desk desk' : Desk ContentDigest} {old : Option RoundTripState} {new : RoundTripState}

/-- A miss is the outcome of a landing of its own side. -/
theorem Move.missed (h : Move setup rid boundary desk old new desk') :
    (new.buyMissed = true → ∃ s, old = some s ∧ s.pending = some .buyLanding) ∧
      (new.sellMissed = true → ∃ s, old = some s ∧ s.pending = some .sellLanding) := by
  cases h with
  | buyFailed b => exact ⟨fun _ => ⟨_, rfl, b.pending_eq⟩, fun h => (nomatch h)⟩
  | sellFailed o => exact ⟨fun h => (nomatch h), fun _ => ⟨_, rfl, o.pending_eq⟩⟩
  | _ => exact ⟨fun h => (nomatch h), fun h => (nomatch h)⟩

theorem Move.launch_not_missed (h : Move setup rid boundary desk none new desk') :
    new.buyMissed = false ∧ new.sellMissed = false := by
  refine ⟨?_, ?_⟩
  · by_contra hne
    obtain ⟨_, ht, _⟩ := h.missed.1 (Bool.eq_true_of_not_eq_false hne)
    cases ht
  · by_contra hne
    obtain ⟨_, ht, _⟩ := h.missed.2 (Bool.eq_true_of_not_eq_false hne)
    cases ht

theorem Move.not_buyMissed {s : RoundTripState}
    (h : Move setup rid boundary desk (some s) new desk') (hp : s.pending ≠ some .buyLanding) :
    new.buyMissed = false := by
  by_contra hne
  obtain ⟨t, ht, hpt⟩ := h.missed.1 (Bool.eq_true_of_not_eq_false hne)
  cases ht
  exact hp hpt

theorem Move.not_sellMissed {s : RoundTripState}
    (h : Move setup rid boundary desk (some s) new desk') (hp : s.pending ≠ some .sellLanding) :
    new.sellMissed = false := by
  by_contra hne
  obtain ⟨t, ht, hpt⟩ := h.missed.2 (Bool.eq_true_of_not_eq_false hne)
  cases ht
  exact hp hpt

/-- Only a launch is suppressed. -/
theorem Move.skipped (h : Move setup rid boundary desk old new desk')
    (hs : new.skipped = true) : old = none := by
  cases h with
  | suppressed => rfl
  | _ => cases hs

theorem HeldPosition.bought (p : HeldPosition setup rid) : p.state.bought = true :=
  decide_eq_true p.acquired_pos

/-- Once a buy is decided it stays accepted or rejected, and a landing is the first miss. -/
theorem Move.settled {s : RoundTripState} (h : Move setup rid boundary desk (some s) new desk') :
    new.buyAccepted = s.buyAccepted ∧ s.skipped = false ∧ s.buyMissed = false ∧
      s.sellMissed = false := by
  have hkept : ∀ t t' : RoundTripState, t.bought = true → t'.bought = true →
      t'.buyAccepted = t.buyAccepted := fun t t' ht ht' =>
    (RoundTripState.buyAccepted_of_bought ht').trans (RoundTripState.buyAccepted_of_bought ht).symm
  cases h with
  | buyFailed b => exact ⟨rfl, rfl, rfl, rfl⟩
  | buyFilled p => exact ⟨RoundTripState.buyAccepted_of_bought p.bought, rfl, rfl, rfl⟩
  | sellUnavailable p => exact ⟨hkept _ _ p.bought p.bought, rfl, rfl, rfl⟩
  | sellPreSubmitRejected o => exact ⟨hkept _ _ o.bought o.bought, rfl, rfl, rfl⟩
  | sellAccepted o => exact ⟨hkept _ _ o.bought o.bought, rfl, rfl, rfl⟩
  | sellFailed o => exact ⟨hkept _ _ o.bought o.bought, rfl, rfl, rfl⟩
  | closed o => exact ⟨hkept _ _ o.bought o.bought, rfl, rfl, rfl⟩

end Tallies

/-! ## One order moves -/

/-- The counters a move changes. -/
structure CountsMoved (old : Option RoundTripState) (new : RoundTripState) (c c' : RunCounts) :
    Prop where
  target : c'.targetCount = c.targetCount + old.isNone.toNat
  skipped : c'.cooldownSkippedCount = c.cooldownSkippedCount + new.skipped.toNat
  acceptedBuy : c'.acceptedBuyCount = c.acceptedBuyCount + (old.isNone && new.buyAccepted).toNat
  failedBuy : c'.failedBuyCount = c.failedBuyCount + new.buyMissed.toNat
  failedSell : c'.failedSellCount = c.failedSellCount + new.sellMissed.toNat

/-- What a launch does to the windows of the developers. -/
inductive Cooled (new : RoundTripState) (cooldowns : DeveloperCooldowns) :
    DeveloperCooldowns → Prop
  | suppressed {until_ : Nat} (status : new.skipped = true)
    (window : cooldowns.get? new.target.developerId.value = some until_)
    (inside : new.targetTimeNs < until_) : Cooled new cooldowns cooldowns
  | started (status : new.skipped = false)
    (outside : ∀ until_, cooldowns.get? new.target.developerId.value = some until_ →
      until_ ≤ new.targetTimeNs) :
    Cooled new cooldowns (cooldowns.set new.target.developerId.value
      (new.targetTimeNs + PUMPFUN_SNIPING_COOLDOWN_NS))

theorem Cooled.started_at {new : RoundTripState} {cooldowns : DeveloperCooldowns}
    {target : LaunchTarget} {timeNs : Nat} (ht : new.target = target)
    (hn : new.targetTimeNs = timeNs) (status : new.skipped = false)
    (outside : ∀ until_, cooldowns.get? target.developerId.value = some until_ →
      until_ ≤ timeNs) :
    Cooled new cooldowns (cooldowns.set target.developerId.value
      (timeNs + PUMPFUN_SNIPING_COOLDOWN_NS)) := by
  subst ht hn
  exact .started status outside

section Moves

variable [DomainDigest] (setup : SnipingSetup)

/-- One round trip moves; the others stay. -/
structure Moved (rid : ContentDigest) (boundary : Nat) (old : Option RoundTripState)
    (new : RoundTripState) (run run' : RunState) : Prop where
  move : Move setup rid boundary run.desk old new run'.desk
  before : run.states.get? rid = old
  states : run'.states = run.states.set rid new
  counts : CountsMoved old new run.counts run'.counts

/-- Nothing happens to any order. -/
structure SameOrders (run run' : RunState) : Prop where
  states : run'.states = run.states
  portfolio : run'.desk.portfolio = run.desk.portfolio
  accounts : run'.desk.accounts = run.desk.accounts
  ledger : run'.desk.recorder.ledger = run.desk.recorder.ledger
  cashflows : run'.desk.recorder.cashflows = run.desk.recorder.cashflows
  fills : run'.desk.recorder.fills = run.desk.recorder.fills
  roundtrips : run'.desk.recorder.roundtrips = run.desk.recorder.roundtrips
  audit : ∃ rows, run'.desk.recorder.audit = run.desk.recorder.audit ++ rows ∧
    ∀ row ∈ rows, row.roundtrip? = none
  cooldowns : run'.cooldowns = run.cooldowns
  target : run'.counts.targetCount = run.counts.targetCount
  skipped : run'.counts.cooldownSkippedCount = run.counts.cooldownSkippedCount
  acceptedBuy : run'.counts.acceptedBuyCount = run.counts.acceptedBuyCount
  failedBuy : run'.counts.failedBuyCount = run.counts.failedBuyCount
  failedSell : run'.counts.failedSellCount = run.counts.failedSellCount

/-- What a step does to the orders of a run. -/
inductive Turn (m m' : Moment) : Prop
  | quiet (same : SameOrders m.run m'.run) (queue : m'.queue.Perm m.queue)
  | launched {rid : ContentDigest} {boundary : Nat} {new : RoundTripState}
    (here : m.boundary? = some boundary)
    (here' : m'.boundary? = some boundary) (launch : m.launches = new.target :: m'.launches)
    (due : m'.due = m.due) (moved : Moved setup rid boundary none new m.run m'.run)
    (cooled : Cooled new m.run.cooldowns m'.run.cooldowns)
  | acted {boundary : Nat} {old new : RoundTripState} {action : ScheduledAction ContentDigest}
    (here : m.boundary? = some boundary) (here' : m'.boundary? = some boundary)
    (due : m.due = action :: m'.due) (release : action.releaseBoundaryOrdinal = boundary)
    (pending : old.pending = some action.kind)
    (moved : Moved setup action.subject boundary (some old) new m.run m'.run)
    (cooldowns : m'.run.cooldowns = m.run.cooldowns)

/-! ## The laws of the orders -/

/-- The laws of the orders of a run. -/
structure OrderLaws (run : RunState) (queue : List (ScheduledAction ContentDigest)) : Prop where
  lawful : ∀ rid s, run.states.get? rid = some s → Lawful setup rid s
  agenda : Agenda RoundTripState.pending run.states (queue.map fun a => (a.subject, a.kind))
  due : ∀ a ∈ queue, ∀ s, run.states.get? a.subject = some s → ∃ position,
    s.duePosition setup.clock setup.strategy.sellDelayTransactions = .ok position ∧
      position.boundaryOrdinal = a.releaseBoundaryOrdinal
  accounts_valid : run.desk.accounts.Valid
  accounts_initial : run.desk.accounts.initialUvaState = setup.config.initialUvaState
  zeroExists : ∀ rid s, run.states.get? rid = some s → ZeroExists run.desk.accounts s

variable {setup} {rid : ContentDigest} {boundary : Nat} {old : Option RoundTripState}
  {new : RoundTripState} {run run' : RunState} {queue queue' : List (ScheduledAction ContentDigest)}

theorem OrderLaws.quiet (h : OrderLaws setup run queue) (hs : SameOrders run run')
    (hq : queue'.Perm queue) : OrderLaws setup run' queue' := by
  refine ⟨?_, ?_, ?_, ?_, ?_, ?_⟩
  · rw [hs.states]
    exact h.lawful
  · rw [hs.states]
    exact h.agenda.perm (hq.map _)
  · rw [hs.states]
    exact fun a ha => h.due a (hq.mem_iff.mp ha)
  · rw [hs.accounts]
    exact h.accounts_valid
  · rw [hs.accounts]
    exact h.accounts_initial
  · rw [hs.states, hs.accounts]
    exact h.zeroExists

theorem OrderLaws.perm (h : OrderLaws setup run queue) (hq : queue'.Perm queue) :
    OrderLaws setup run queue' :=
  { h with
    agenda := h.agenda.perm (hq.map _)
    due := fun a ha => h.due a (hq.mem_iff.mp ha) }

/-- The laws hold after a move, once the queue is an agenda again. -/
theorem OrderLaws.moved (h : OrderLaws setup run queue)
    (hm : Moved setup rid boundary old new run run')
    (hothers : ∀ a ∈ queue', a ∈ queue ∧ a.subject ≠ rid)
    (hagenda : Agenda RoundTripState.pending (run.states.set rid new)
      (awaiting rid new.pending ++ queue'.map fun a => (a.subject, a.kind)))
    {fresh : List (ScheduledAction ContentDigest)} (hfresh : Fresh setup rid boundary new fresh) :
    OrderLaws setup run' (fresh ++ queue') := by
  have hwallet := hm.move.wallet
  have hsubject : ∀ a ∈ fresh, a.subject = rid := by
    intro a ha
    have h1 : (a.subject, a.kind) ∈ awaiting rid new.pending := by
      rw [← hfresh.tasks]
      exact List.mem_map_of_mem (f := fun a => (a.subject, a.kind)) ha
    exact (mem_awaiting.mp h1).1
  refine ⟨fun rid' s hs => ?_, ?_, fun a ha s hs => ?_, ?_, ?_, fun rid' s hs => ?_⟩
  · rw [hm.states, Dict.get?_set] at hs
    split at hs
    · rename_i he
      cases hs
      exact he ▸ hm.move.lawful
    · exact h.lawful rid' s hs
  · rw [hm.states, List.map_append, hfresh.tasks]
    exact hagenda
  · rw [hm.states, Dict.get?_set] at hs
    rcases List.mem_append.mp ha with ha | ha
    · rw [if_pos (hsubject a ha)] at hs
      cases hs
      exact hfresh.due a ha
    · obtain ⟨ha, hne⟩ := hothers a ha
      rw [if_neg hne] at hs
      exact h.due a ha s hs
  · exact hwallet.valid h.accounts_valid
  · rw [hwallet.initial]
    exact h.accounts_initial
  · rw [hm.states, Dict.get?_set] at hs
    split at hs
    · cases hs
      refine hm.move.zeroExists fun s' hs' => ?_
      exact h.zeroExists rid s' (hm.before.trans hs')
    · exact fun plan hp c hc hw hz =>
        hwallet.uvaExists (h.zeroExists rid' s hs plan hp c hc hw hz)

/-- **A launch keeps the laws.** -/
theorem OrderLaws.launched (h : OrderLaws setup run queue)
    (hm : Moved setup rid boundary none new run run')
    {fresh : List (ScheduledAction ContentDigest)} (hfresh : Fresh setup rid boundary new fresh) :
    OrderLaws setup run' (fresh ++ queue) := by
  refine h.moved hm (fun a ha => ⟨ha, ?_⟩) (h.agenda.add hm.before new) hfresh
  rintro rfl
  obtain ⟨s, hs, _⟩ := h.agenda.take
    (List.mem_map_of_mem (f := fun a => (a.subject, a.kind)) ha)
  rw [hm.before] at hs
  cases hs

/-- **An action keeps the laws.** -/
theorem OrderLaws.acted {action : ScheduledAction ContentDigest} {s : RoundTripState}
    (h : OrderLaws setup run (action :: queue))
    (hm : Moved setup action.subject boundary (some s) new run run')
    {fresh : List (ScheduledAction ContentDigest)}
    (hfresh : Fresh setup action.subject boundary new fresh) :
    OrderLaws setup run' (fresh ++ queue) := by
  refine h.moved hm (fun a ha => ⟨List.mem_cons_of_mem _ ha, ?_⟩) (h.agenda.advance new) hfresh
  have hnd := h.agenda.nodup
  rw [List.map_cons, List.map_cons, List.nodup_cons, List.map_map] at hnd
  intro he
  exact hnd.1 (he ▸ List.mem_map_of_mem (f := Prod.fst ∘ fun a => (a.subject, a.kind)) ha)

/-! ## The bodies of the loops -/

variable {position : ChainPosition} {groups : List (List CanonicalEvent)}
  {action : ScheduledAction ContentDigest}

/-- The round trip of an action is where the action says. -/
theorem OrderLaws.state_of_action (h : OrderLaws setup run (action :: queue))
    (hat : AtBoundary setup boundary position groups run)
    (hrelease : action.releaseBoundaryOrdinal = boundary) {s : RoundTripState}
    (hs : run.states.get? action.subject = some s) :
    Lawful setup action.subject s ∧ s.pending = some action.kind ∧
      ∃ p, s.duePosition setup.clock setup.strategy.sellDelayTransactions = .ok p ∧
        p.boundaryOrdinal = boundary ∧ position = p := by
  obtain ⟨s', hs', hpending⟩ := h.agenda.take List.mem_cons_self
  rw [hs] at hs'
  cases hs'
  obtain ⟨p, hp, hb⟩ := h.due action List.mem_cons_self s hs
  obtain ⟨hn, he⟩ := duePosition_position hp
  exact ⟨h.lawful _ s hs, hpending, p, hp, hb.trans hrelease,
    hat.position_eq (hb.trans hrelease) hn he⟩

theorem countsMoved_some {s : RoundTripState} {c c' : RunCounts} {desk desk' : Desk ContentDigest}
    (hm : Move setup rid boundary desk (some s) new desk')
    (ht : c'.targetCount = c.targetCount) (hk : c'.cooldownSkippedCount = c.cooldownSkippedCount)
    (ha : c'.acceptedBuyCount = c.acceptedBuyCount)
    (hb : c'.failedBuyCount = c.failedBuyCount + new.buyMissed.toNat)
    (hs : c'.failedSellCount = c.failedSellCount + new.sellMissed.toNat) :
    CountsMoved (some s) new c c' := by
  refine ⟨ht, ?_, ha, hb, hs⟩
  have hskipped : new.skipped = false := by
    by_contra hne
    cases hm.skipped (Bool.eq_true_of_not_eq_false hne)
  rw [hskipped]
  exact hk

/-- **A due sell decision moves its round trip.** -/
theorem moved_of_decideAction (h : OrderLaws setup run (action :: queue))
    (hat : AtBoundary setup boundary position groups run)
    (hrelease : action.releaseBoundaryOrdinal = boundary)
    (hbody : decideAction setup position run action = .ok run') :
    ∃ old new, old.pending = some action.kind ∧
      Moved setup action.subject boundary (some old) new run run' ∧
      run'.cooldowns = run.cooldowns := by
  obtain ⟨hkind, hbody⟩ := check_bind_eq_ok.mp hbody
  obtain ⟨s, hs, hbody⟩ := bind_eq_ok.mp hbody
  obtain ⟨handled, hhandled, hbody⟩ := bind_eq_ok.mp hbody
  cases hbody
  have hs := requirePart_eq_ok.mp hs
  obtain ⟨hlawful, hpending, p, hp, hb, rfl⟩ := h.state_of_action hat hrelease hs
  have hkind : action.kind = .sellDecision := not_not.mp (refuseIf_eq_ok.mp hkind)
  obtain ⟨held, rfl⟩ := hlawful.of_sellDecision (hpending.trans (congrArg some hkind))
  cases held.duePosition_eq.symm.trans hp
  have hmove := move_of_decideSell held hb hhandled
  refine ⟨held.state, handled.state, hpending, ⟨hmove, hs, rfl, ?_⟩, rfl⟩
  refine countsMoved_some hmove rfl rfl rfl ?_ ?_
  · rw [hmove.not_buyMissed (by simp)]
    rfl
  · rw [hmove.not_sellMissed (by simp)]
    rfl

/-- **A due landing moves its round trip.** -/
theorem moved_of_landAction (h : OrderLaws setup run (action :: queue))
    (hat : AtBoundary setup boundary position groups run)
    (hrelease : action.releaseBoundaryOrdinal = boundary)
    (hbody : landAction setup position run action = .ok run') :
    ∃ old new, old.pending = some action.kind ∧
      Moved setup action.subject boundary (some old) new run run' ∧
      run'.cooldowns = run.cooldowns := by
  obtain ⟨s, hs, hbody⟩ := bind_eq_ok.mp hbody
  have hs := requirePart_eq_ok.mp hs
  obtain ⟨hlawful, hpending, p, hp, hb, rfl⟩ := h.state_of_action hat hrelease hs
  cases hkind : action.kind with
  | sellDecision =>
    rw [hkind] at hbody
    cases hbody
  | buyLanding =>
    rw [hkind] at hbody
    obtain ⟨handled, hhandled, hbody⟩ := bind_eq_ok.mp hbody
    cases hbody
    obtain ⟨b, rfl⟩ := hlawful.of_buyLanding (hpending.trans (congrArg some hkind))
    cases b.duePosition_eq.symm.trans hp
    obtain ⟨hmove, hsucceeded⟩ := move_of_landBuy b h.accounts_valid h.accounts_initial
      ((b.toPricedBuy.zeroExists_iff rfl).mp (h.zeroExists _ _ hs)) hb hhandled
    refine ⟨b.state, handled.state, b.pending_eq, ⟨hmove, hs, rfl, ?_⟩, rfl⟩
    refine countsMoved_some hmove rfl rfl rfl (by rw [hsucceeded]) ?_
    rw [hmove.not_sellMissed (by simp)]
    rfl
  | sellLanding =>
    rw [hkind] at hbody
    obtain ⟨handled, hhandled, hbody⟩ := bind_eq_ok.mp hbody
    cases hbody
    obtain ⟨o, rfl⟩ := hlawful.of_sellLanding (hpending.trans (congrArg some hkind))
    cases o.duePosition_eq.symm.trans hp
    obtain ⟨hmove, hsucceeded⟩ := move_of_landSell o hb hhandled
    refine ⟨o.state, handled.state, o.pending_eq, ⟨hmove, hs, rfl, ?_⟩, rfl⟩
    refine countsMoved_some hmove rfl rfl rfl ?_ (by rw [hsucceeded])
    rw [hmove.not_buyMissed (by simp)]
    rfl

/-- **A launch that is decided starts its round trip.** -/
theorem moved_of_decideLaunch {target : LaunchTarget} (h : OrderLaws setup run queue)
    (here : LaunchHere setup boundary target)
    (hbody : decideLaunch setup boundary run target = .ok run') :
    ∃ new, new.target = target ∧
      Moved setup (setup.strategy.roundtripId target) boundary none new run run' ∧
      Cooled new run.cooldowns run'.cooldowns := by
  obtain ⟨_, hbody⟩ := check_bind_eq_ok.mp hbody
  obtain ⟨timeNs, htime, hbody⟩ := bind_eq_ok.mp hbody
  obtain ⟨⟨decision, cooldowns⟩, hdecide, hbody⟩ := bind_eq_ok.mp hbody
  obtain ⟨hnew, hbody⟩ := check_bind_eq_ok.mp hbody
  have hnew := not_not.mp (refuseIf_eq_ok.mp hnew)
  obtain ⟨hdecision, hwindow⟩ := PumpfunSnipingStrategy.decide_eq_ok hdecide
  obtain ⟨hrid, hquote, hstatus⟩ := PumpfunSnipingStrategy.decideFromCooldown_eq_ok hdecision
  let l : DecidedLaunch setup (setup.strategy.roundtripId target) :=
    { target := target
      timeNs := timeNs
      roundtripId_eq := rfl
      time_eq := htime
      assets_ne := here.assets_ne
      quote_eq := hquote }
  rw [hrid] at hnew
  rcases hstatus with ⟨until_, hw, hlt, hs, hu, _⟩ | ⟨hout, hs, hu, intent, hintent, hi⟩
  · rw [if_pos hs] at hbody
    cases hbody
    rw [hw] at hu
    have hcooldowns : cooldowns = run.cooldowns := by
      rcases hwindow with ⟨_, hc⟩ | ⟨he, _⟩
      · exact hc
      · rw [hs] at he
        cases he
    refine ⟨.suppressed target timeNs (some until_), rfl, ⟨?_, hnew, ?_, ?_⟩, ?_⟩
    · rw [skipLaunch, hrid]
      exact .suppressed l hlt here.boundary_eq
    · rw [skipLaunch, hrid, hu]
    · exact ⟨rfl, rfl, rfl, rfl, rfl⟩
    · rw [skipLaunch, hcooldowns]
      exact .suppressed rfl hw hlt
  · rw [if_neg (by rw [hs]; simp)] at hbody
    obtain ⟨intent', hintent', hbody⟩ := bind_eq_ok.mp hbody
    cases hintent.symm.trans (requirePart_eq_ok.mp hintent')
    obtain ⟨hmode, hbody⟩ := check_bind_eq_ok.mp hbody
    obtain ⟨handled, hhandled, hbody⟩ := bind_eq_ok.mp hbody
    cases hbody
    obtain ⟨h1, h2, h3, h4, h5, _, _, h8⟩ := hi
    have hcooldowns : cooldowns = run.cooldowns.set target.developerId.value
        (timeNs + PUMPFUN_SNIPING_COOLDOWN_NS) := by
      rcases hwindow with ⟨he, _⟩ | ⟨_, hc⟩
      · rw [hs] at he
        cases he
      · exact hc
    let e : EligibleLaunch setup (setup.strategy.roundtripId target) :=
      { l with
        intent := intent
        intent_rid := h1
        intent_position := h2
        intent_asset := h3
        intent_venue := h4
        intent_quote := h5
        intent_mode := not_not.mp (refuseIf_eq_ok.mp hmode)
        intent_delay := h8 }
    rw [hrid, hu] at hhandled
    obtain ⟨hmove, hentered⟩ := move_of_acceptBuy e h.accounts_initial here.boundary_eq hhandled
    have hskipped : handled.state.skipped = false := beq_false_of_ne hentered.entered
    refine ⟨handled.state, hentered.target_eq, ⟨hmove, hnew, by rw [hrid], ?_⟩, ?_⟩
    · refine ⟨rfl, ?_, by rw [hentered.succeeded_eq]; rfl, ?_, ?_⟩
      · rw [hskipped]
        rfl
      · rw [hmove.launch_not_missed.1]
        rfl
      · rw [hmove.launch_not_missed.2]
        rfl
    · rw [hcooldowns]
      exact .started_at hentered.target_eq hentered.time_eq hskipped hout

end Moves

end OnchainBacktest
