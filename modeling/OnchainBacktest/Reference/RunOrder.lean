import Mathlib.Data.List.SplitBy
import OnchainBacktest.Reference.RunSteps

/-!
# The boundaries a run goes through

The engine checks the order of its stream as it goes.  A run that gets through has met every
boundary once, in increasing order (`runGroups_increasing`), and so has written what it wrote up to
a boundary before anything later (`runGroups_wrote`).
-/

set_option autoImplicit false

namespace OnchainBacktest

namespace Reference

open Checked

section Order

variable {ε σ φ : Type} [MarketEvent ε] {timeline : BoundaryTimeline} {plugins : RunPlugins ε σ}
  {boundary : Nat}

/-- The boundary of a group. -/
def groupBoundary : List ε → Nat
  | [] => 0
  | first :: _ => (envelope first).boundaryOrdinal

/-! ## The order of the events -/

theorem requireOrdered_eq_ok {previous key : Option EventSortKey} {events : List ε}
    (h : requireOrdered previous events = .ok key) :
    (∀ p ∈ previous, ∀ e ∈ events, p < eventSortKey (envelope e)) ∧
      (events ≠ [] → ∃ e ∈ events, key = some (eventSortKey (envelope e))) := by
  induction events generalizing previous with
  | nil => exact ⟨fun _ _ _ h => (nomatch h), fun h => absurd rfl h⟩
  | cons first rest ih =>
    rw [requireOrdered, List.foldlM_cons] at h
    obtain ⟨next, hnext, h⟩ := bind_eq_ok.mp h
    obtain ⟨hordered, hnext⟩ := check_bind_eq_ok.mp hnext
    obtain rfl := Except.ok.inj hnext
    obtain ⟨hlater, hlast⟩ := ih h
    have hfirst : ∀ p ∈ previous, p < eventSortKey (envelope first) := fun p hp =>
      not_le.mp fun hle => refuseIf_eq_ok.mp hordered ⟨p, hp, hle⟩
    refine ⟨fun p hp e he => ?_, fun _ => ?_⟩
    · rcases List.mem_cons.mp he with rfl | he
      · exact hfirst p hp
      · exact (hfirst p hp).trans (hlater _ rfl e he)
    · by_cases hrest : rest = []
      · subst hrest
        simp only [List.foldlM_nil, pure, Except.pure, Except.ok.injEq] at h
        exact ⟨first, List.mem_cons_self, h.symm⟩
      · obtain ⟨e, he, hkey⟩ := hlast hrest
        exact ⟨e, List.mem_cons_of_mem _ he, hkey⟩

/-- On one network the order of two keys is no other than that of their boundaries. -/
theorem boundary_le_of_key_lt {a b : EventEnvelope}
    (hnetwork : a.position.networkId = b.position.networkId)
    (h : eventSortKey a < eventSortKey b) : a.boundaryOrdinal ≤ b.boundaryOrdinal := by
  rw [eventSortKey, eventSortKey, Prod.Lex.toLex_lt_toLex, hnetwork] at h
  obtain ⟨-, h⟩ := h.resolve_left (lt_irrefl _)
  rw [Prod.Lex.toLex_lt_toLex] at h
  rcases h with h | h
  · exact h.le
  · exact h.1.le

/-- An event that belongs to a timeline stands at one of its boundaries, on its chain. -/
theorem requireEvent_eq_ok {position : ChainPosition}
    (h : timeline.requireEvent position = .ok ()) :
    ∃ b ∈ timeline.boundaries, b.boundaryOrdinal = position.boundaryOrdinal ∧
      b.networkId = position.networkId := by
  obtain ⟨b, hb, h⟩ := bind_eq_ok.mp h
  obtain ⟨i, hi, hb⟩ := bind_eq_ok.mp hb
  have hordinal := BoundaryTimeline.index_eq_ok hi
  rw [BoundaryTimeline.ordinals, List.getElem?_map] at hordinal
  split at hb
  · cases hb
  · rename_i found hfound
    obtain rfl := Except.ok.inj hb
    rw [hfound] at hordinal
    rw [refuseIf_eq_ok, not_or] at h
    exact ⟨found, List.mem_of_getElem? hfound, Option.some.inj hordinal, (not_not.mp h.1).symm⟩

/-! ## The order of the groups -/

/-- Where a run stands after a group: at the boundary of the group, with the key of an event of it
as the last. -/
structure StandsAt (timeline : BoundaryTimeline) (boundary : Nat) (books : RunBooks σ) : Prop where
  last : books.previousGroupBoundary = some boundary
  key : ∃ e : EventEnvelope, e.boundaryOrdinal = boundary ∧
    timeline.requireEvent e.position = .ok () ∧ books.previousSortKey = some (eventSortKey e)

variable [DomainDigest] [ObservationFeed ε φ]

/-- What a group that is processed is like. -/
theorem processGroup_group {state state' : φ × RunBooks σ} {events : List ε}
    (h : processGroup timeline plugins state events = .ok state') :
    events ≠ [] ∧ (∀ e ∈ events, (envelope e).boundaryOrdinal = groupBoundary events ∧
        timeline.requireEvent (envelope e).position = .ok ()) ∧
      StandsAt timeline (groupBoundary events) state'.2 ∧
      ∀ b, StandsAt timeline b state.2 → b < groupBoundary events := by
  obtain ⟨first, rest, history, rfl, hhistory, hfollows⟩ := processGroup_follows h
  obtain ⟨key, historical, venue, hkey, hnew, hrequire, hgroup, -, rfl⟩ :=
    applyHistory_eq_ok hhistory
  have hsame := applyGroup_same hgroup
  obtain ⟨hlater, hlast⟩ := requireOrdered_eq_ok hkey
  refine ⟨List.cons_ne_nil _ _, fun e he => ⟨hsame e he, hrequire e he⟩, ?_, fun b hb => ?_⟩
  · obtain ⟨e, he, hkey⟩ := hlast (List.cons_ne_nil _ _)
    refine ⟨hfollows.previousGroupBoundary, envelope e, hsame e he, hrequire e he, ?_⟩
    exact hfollows.previousSortKey.trans hkey
  · obtain ⟨last, previous, hboundary, hposition, hprevious⟩ := hb
    obtain ⟨x, hx, -, hxn⟩ := requireEvent_eq_ok hposition
    obtain ⟨y, hy, -, hyn⟩ := requireEvent_eq_ok (hrequire first List.mem_cons_self)
    have hnetwork : previous.position.networkId = (envelope first).position.networkId :=
      hxn.symm.trans ((timeline.one_chain x hx y hy).trans hyn)
    have hle := boundary_le_of_key_lt hnetwork
      (hlater _ hprevious first List.mem_cons_self)
    have hne : (envelope first).boundaryOrdinal ≠ b := fun heq => hnew (heq ▸ last)
    rw [groupBoundary]
    omega

/-- **A run goes through its boundaries in increasing order**, and each of its groups stands at one
of them. -/
theorem runGroups_increasing {state state' : φ × RunBooks σ} {groups : List (List ε)}
    (h : runGroups timeline plugins state groups = .ok state') :
    groups.Pairwise (fun a b => groupBoundary a < groupBoundary b) ∧
      (∀ b, StandsAt timeline b state.2 → ∀ group ∈ groups, b < groupBoundary group) ∧
      ∀ group ∈ groups, group ≠ [] ∧ ∀ e ∈ group,
        (envelope e).boundaryOrdinal = groupBoundary group ∧
          timeline.requireEvent (envelope e).position = .ok () := by
  induction groups generalizing state with
  | nil => exact ⟨.nil, fun _ _ _ h => (nomatch h), fun _ h => (nomatch h)⟩
  | cons group rest ih =>
    rw [runGroups, List.foldlM_cons] at h
    obtain ⟨next, hnext, h⟩ := bind_eq_ok.mp h
    obtain ⟨hne, hevents, hstands, hlt⟩ := processGroup_group hnext
    obtain ⟨hpairs, hlater, hgroups⟩ := ih h
    refine ⟨List.pairwise_cons.mpr ⟨hlater _ hstands, hpairs⟩, fun b hb other hother => ?_,
      fun other hother => ?_⟩
    · rcases List.mem_cons.mp hother with rfl | hother
      · exact hlt b hb
      · exact (hlt b hb).trans (hlater _ hstands other hother)
    · rcases List.mem_cons.mp hother with rfl | hother
      · exact ⟨hne, hevents⟩
      · exact hgroups other hother

/-! ## What is written later -/

/-- **A run over later groups writes at later boundaries only.** -/
theorem runGroups_wrote {P : Nat → Prop} {state state' : φ × RunBooks σ} {groups : List (List ε)}
    (h : runGroups timeline plugins state groups = .ok state')
    (hP : ∀ group ∈ groups, P (groupBoundary group)) :
    state.2.recorder.Wrote P state'.2.recorder := by
  refine foldlM_keeps (P := fun s => state.2.recorder.Wrote P s.2.recorder) ?_ (.refl _ _) h
  intro group hgroup s s' hs hstep
  obtain ⟨first, rest, -, rfl, -, -⟩ := processGroup_follows hstep
  have hat : P (envelope first).boundaryOrdinal := hP _ hgroup
  exact hs.trans ((processGroup_wrote hstep).mono fun b hb => hb ▸ hat)

end Order

end Reference

end OnchainBacktest
