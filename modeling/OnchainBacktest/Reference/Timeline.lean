import OnchainBacktest.Lib.Bisect
import OnchainBacktest.Domain.MarketEvents

/-!
# Replay boundaries and releases

The boundaries of a replay, in their order, and what an observation or an order waits for: a number
of blocks counted from the boundary it belongs to, rounded up to the first boundary there is.  An
observation may be released at its own boundary, an order at a later one only
(`BoundaryTimeline.lt_orderRelease`); what there is no boundary for is released nowhere.
-/

set_option autoImplicit false

namespace OnchainBacktest

namespace Reference

open Checked Bisect

/-- An exception of a run of the reference engine. -/
inductive EngineFault
  /-- `EngineInvariantError`. -/
  | engineInvariant (message : String)
  /-- `HistoricalStateError`. -/
  | historicalState (message : String)
  /-- `ValueError` of the scheduler. -/
  | schedulerKeyCollision
  /-- An exception of a domain object, the portfolio or a plugin. -/
  | raised (fault : Fault)
  deriving DecidableEq

/-- A boundary of a replay: the position of a transaction group, outside any event. -/
structure ReplayBoundary where
  chainPosition : ChainPosition
  eventless : chainPosition.eventIndex = none
  deriving DecidableEq

namespace ReplayBoundary

def networkId (boundary : ReplayBoundary) : NetworkId := boundary.chainPosition.networkId

def boundaryOrdinal (boundary : ReplayBoundary) : Nat := boundary.chainPosition.boundaryOrdinal

def blockOrdinal (boundary : ReplayBoundary) : Nat := boundary.chainPosition.blockOrdinal

end ReplayBoundary

/-- `_BoundaryTimeline`: at least one boundary, on one chain, strictly increasing. -/
structure BoundaryTimeline where
  boundaries : List ReplayBoundary
  nonempty : boundaries ≠ []
  increasing : boundaries.Pairwise fun a b => a.boundaryOrdinal < b.boundaryOrdinal
  one_chain : ∀ a ∈ boundaries, ∀ b ∈ boundaries, a.networkId = b.networkId
  monotone : boundaries.Pairwise fun a b => a.blockOrdinal ≤ b.blockOrdinal

namespace BoundaryTimeline

/-- The constructor of a timeline. -/
def make (boundaries : List ReplayBoundary) : Except EngineFault BoundaryTimeline :=
  if hne : boundaries = [] then
    .error (.engineInvariant "replay boundary index must not be empty")
  else if hinc : boundaries.Pairwise fun a b => a.boundaryOrdinal < b.boundaryOrdinal then
    if hone : ∀ a ∈ boundaries, ∀ b ∈ boundaries, a.networkId = b.networkId then
      if hmono : boundaries.Pairwise fun a b => a.blockOrdinal ≤ b.blockOrdinal then
        .ok ⟨boundaries, hne, hinc, hone, hmono⟩
      else .error (.engineInvariant "replay boundary blocks must be monotone")
    else .error (.engineInvariant
      "replay boundaries mix network or position schema identities")
  else .error (.engineInvariant
    "replay boundaries must have strictly increasing ordinals")

def ordinals (timeline : BoundaryTimeline) : List Nat :=
  timeline.boundaries.map ReplayBoundary.boundaryOrdinal

def blocks (timeline : BoundaryTimeline) : List Nat :=
  timeline.boundaries.map ReplayBoundary.blockOrdinal

/-- `_index`. -/
def index (timeline : BoundaryTimeline) (boundary : Nat) : Except EngineFault Nat :=
  match timeline.ordinals.idxOf? boundary with
  | none => .error (.engineInvariant "item references a non-existent replay boundary")
  | some index => .ok index

/-- The boundary that is released when at least `first` have to pass and a block is waited for. -/
def releaseFrom (timeline : BoundaryTimeline) (first targetBlock : Nat) : Option Nat :=
  timeline.ordinals[max first (bisectLeft timeline.blocks targetBlock 0)]?

/-- `observation_release`. -/
def observationRelease (timeline : BoundaryTimeline) (sourceBoundary delaySlots : Nat) :
    Except EngineFault (Option Nat) := do
  let sourceIndex ← timeline.index sourceBoundary
  .ok (timeline.releaseFrom sourceIndex (timeline.blocks.getD sourceIndex 0 + delaySlots))

/-- `order_release`. -/
def orderRelease (timeline : BoundaryTimeline) (decisionBoundary delaySlots : Nat) :
    Except EngineFault (Option Nat) := do
  let currentIndex ← timeline.index decisionBoundary
  .ok (timeline.releaseFrom (currentIndex + 1)
    (timeline.blocks.getD currentIndex 0 + delaySlots))

/-- `instant`, as the position of the boundary. -/
def instant (timeline : BoundaryTimeline) (boundary : Nat) : Except EngineFault ReplayBoundary := do
  let index ← timeline.index boundary
  match timeline.boundaries[index]? with
  | none => .error (.engineInvariant "item references a non-existent replay boundary")
  | some boundary => .ok boundary

/-- `require_event`. -/
def requireEvent (timeline : BoundaryTimeline) (position : ChainPosition) :
    Except EngineFault Unit := do
  let boundary ← timeline.instant position.boundaryOrdinal
  refuseIf (position.networkId ≠ boundary.networkId ∨
      position.blockOrdinal ≠ boundary.blockOrdinal ∨
      position.transactionIndex ≠ boundary.chainPosition.transactionIndex)
    (.engineInvariant
      "historical event differs from replay network, schema or boundary position")

/-! ## Indexes -/

variable {timeline : BoundaryTimeline} {boundary delaySlots : Nat}

theorem ordinals_increasing : timeline.ordinals.Pairwise (· < ·) :=
  List.pairwise_map.mpr timeline.increasing

theorem index_eq_ok {i : Nat} (h : timeline.index boundary = .ok i) :
    timeline.ordinals[i]? = some boundary := by
  rw [index] at h
  split at h
  · cases h
  · rename_i found hfound
    obtain rfl := Except.ok.inj h
    obtain ⟨hlt, heq, -⟩ := List.idxOf?_eq_some_iff.mp hfound
    rw [List.getElem?_eq_getElem hlt, heq]

/-- The order of two boundaries is that of their indexes. -/
theorem getElem?_lt {i j a b : Nat} (hi : timeline.ordinals[i]? = some a)
    (hj : timeline.ordinals[j]? = some b) (hij : i < j) : a < b := by
  obtain ⟨hilt, rfl⟩ := List.getElem?_eq_some_iff.mp hi
  obtain ⟨hjlt, rfl⟩ := List.getElem?_eq_some_iff.mp hj
  exact List.pairwise_iff_getElem.mp ordinals_increasing i j hilt hjlt hij

/-! ## Releases -/

theorem observationRelease_eq_ok {release : Option Nat}
    (h : timeline.observationRelease boundary delaySlots = .ok release) :
    ∃ i, timeline.index boundary = .ok i ∧
      release = timeline.releaseFrom i (timeline.blocks.getD i 0 + delaySlots) := by
  obtain ⟨i, hi, h⟩ := bind_eq_ok.mp h
  exact ⟨i, hi, (Except.ok.inj h).symm⟩

theorem orderRelease_eq_ok {release : Option Nat}
    (h : timeline.orderRelease boundary delaySlots = .ok release) :
    ∃ i, timeline.index boundary = .ok i ∧
      release = timeline.releaseFrom (i + 1) (timeline.blocks.getD i 0 + delaySlots) := by
  obtain ⟨i, hi, h⟩ := bind_eq_ok.mp h
  exact ⟨i, hi, (Except.ok.inj h).symm⟩

/-- **An order is released at a later boundary only.** -/
theorem lt_orderRelease {release : Nat}
    (h : timeline.orderRelease boundary delaySlots = .ok (some release)) :
    boundary < release := by
  obtain ⟨i, hi, hrelease⟩ := orderRelease_eq_ok h
  exact getElem?_lt (index_eq_ok hi) hrelease.symm
    (Nat.lt_of_lt_of_le (Nat.lt_succ_self i) (Nat.le_max_left _ _))

/-- **Without a delay an observation is released at its own boundary.** -/
theorem observationRelease_zero {release : Option Nat}
    (h : timeline.observationRelease boundary 0 = .ok release) : release = some boundary := by
  obtain ⟨i, hi, rfl⟩ := observationRelease_eq_ok h
  have hle : bisectLeft timeline.blocks (timeline.blocks.getD i 0 + 0) 0 ≤ i :=
    bisectLeft_of_le (Nat.le_of_eq (Nat.add_zero _)) (Nat.zero_le i)
  rw [releaseFrom, Nat.max_eq_left hle, index_eq_ok hi]

/-! ## Two timelines -/

/-- The boundaries up to one of them. -/
def upTo (timeline : BoundaryTimeline) (boundary : Nat) : List ReplayBoundary :=
  timeline.boundaries.filter fun b => decide (b.boundaryOrdinal ≤ boundary)

theorem filter_increasing {boundaries : List ReplayBoundary}
    (h : boundaries.Pairwise fun a b => a.boundaryOrdinal < b.boundaryOrdinal) (boundary : Nat) :
    ∃ later, boundaries =
        (boundaries.filter fun b => decide (b.boundaryOrdinal ≤ boundary)) ++ later ∧
      ∀ b ∈ later, boundary < b.boundaryOrdinal := by
  induction boundaries with
  | nil => exact ⟨[], rfl, by simp⟩
  | cons first rest ih =>
    obtain ⟨hfirst, hrest⟩ := List.pairwise_cons.mp h
    by_cases hle : first.boundaryOrdinal ≤ boundary
    · obtain ⟨later, heq, hlater⟩ := ih hrest
      refine ⟨later, ?_, hlater⟩
      rw [List.filter_cons, if_pos (decide_eq_true hle), List.cons_append, ← heq]
    · have hnone : ∀ b ∈ rest, boundary < b.boundaryOrdinal := fun b hb => by
        have hlt := hfirst b hb
        omega
      refine ⟨first :: rest, ?_, fun b hb => ?_⟩
      · rw [List.filter_eq_nil_iff.mpr fun b hb => ?_]
        · rfl
        · rcases List.mem_cons.mp hb with rfl | hb
          · simpa using hle
          · have hlt := hnone b hb
            simp only [decide_eq_true_eq]
            omega
      · rcases List.mem_cons.mp hb with rfl | hb
        · omega
        · exact hnone b hb

/-- A timeline is what it has up to a boundary, and then what is later. -/
theorem eq_upTo_append (timeline : BoundaryTimeline) (boundary : Nat) :
    ∃ later, timeline.boundaries = timeline.upTo boundary ++ later ∧
      ∀ b ∈ later, boundary < b.boundaryOrdinal :=
  filter_increasing timeline.increasing boundary

theorem bisectLeft_append (early later : List Nat) (target : Nat) :
    bisectLeft (early ++ later) target 0 < early.length ∧
        bisectLeft (early ++ later) target 0 = bisectLeft early target 0 ∨
      early.length ≤ bisectLeft (early ++ later) target 0 ∧
        bisectLeft early target 0 = early.length := by
  have hle : (early.takeWhile (· < target)).length ≤ early.length :=
    (List.takeWhile_prefix _).length_le
  rw [bisectLeft, bisectLeft, List.drop_zero, List.drop_zero, List.takeWhile_append]
  split
  · rename_i hall
    refine .inr ⟨?_, by omega⟩
    rw [List.length_append]
    omega
  · exact .inl ⟨by omega, rfl⟩

theorem getElem?_append_le {early later : List Nat} {boundary release i : Nat}
    (hlater : ∀ b ∈ later, boundary < b) (hle : release ≤ boundary) :
    (early ++ later)[i]? = some release ↔ early[i]? = some release := by
  rcases Nat.lt_or_ge i early.length with hlt | hge
  · rw [List.getElem?_append_left hlt]
  · rw [List.getElem?_append_right hge, List.getElem?_eq_none hge]
    constructor
    · intro h
      have hlt := hlater release (List.mem_of_getElem? h)
      omega
    · intro h
      cases h

/-- **The releases up to a boundary are decided by the boundaries up to it.** -/
theorem releaseFrom_upTo {first target release : Nat} (hle : release ≤ boundary) :
    timeline.releaseFrom first target = some release ↔
      ((timeline.upTo boundary).map ReplayBoundary.boundaryOrdinal)[max first
        (bisectLeft ((timeline.upTo boundary).map ReplayBoundary.blockOrdinal) target 0)]? =
          some release := by
  obtain ⟨later, hboundaries, hlater⟩ := timeline.eq_upTo_append boundary
  have hblocks : timeline.blocks = (timeline.upTo boundary).map ReplayBoundary.blockOrdinal ++
      later.map ReplayBoundary.blockOrdinal := by
    rw [blocks, hboundaries, List.map_append]
  have hordinals : timeline.ordinals =
      (timeline.upTo boundary).map ReplayBoundary.boundaryOrdinal ++
        later.map ReplayBoundary.boundaryOrdinal := by
    rw [ordinals, hboundaries, List.map_append]
  have hlaterOrdinals : ∀ b ∈ later.map ReplayBoundary.boundaryOrdinal, boundary < b := by
    intro b hb
    obtain ⟨item, hitem, rfl⟩ := List.mem_map.mp hb
    exact hlater item hitem
  rw [releaseFrom, hordinals, getElem?_append_le hlaterOrdinals hle, hblocks]
  rcases bisectLeft_append ((timeline.upTo boundary).map ReplayBoundary.blockOrdinal)
      (later.map ReplayBoundary.blockOrdinal) target with ⟨-, heq⟩ | ⟨hge, heq⟩
  · rw [heq]
  · rw [List.length_map] at hge heq
    rw [heq, List.getElem?_eq_none, List.getElem?_eq_none]
    · rw [List.length_map]
      exact Nat.le_max_right _ _
    · rw [List.length_map]
      exact hge.trans (Nat.le_max_right _ _)

/-- The index of a boundary is decided by the boundaries up to it. -/
theorem index_upTo {c : Nat} (hle : c ≤ boundary) :
    timeline.ordinals.idxOf? c =
      ((timeline.upTo boundary).map ReplayBoundary.boundaryOrdinal).idxOf? c := by
  obtain ⟨later, hboundaries, hlater⟩ := timeline.eq_upTo_append boundary
  have hordinals : timeline.ordinals =
      (timeline.upTo boundary).map ReplayBoundary.boundaryOrdinal ++
        later.map ReplayBoundary.boundaryOrdinal := by
    rw [ordinals, hboundaries, List.map_append]
  have hnot : c ∉ later.map ReplayBoundary.boundaryOrdinal := by
    intro hc
    obtain ⟨item, hitem, heq⟩ := List.mem_map.mp hc
    have hlt := hlater item hitem
    omega
  have hnone : (later.map ReplayBoundary.boundaryOrdinal).findIdx? (· == c) = none := by
    rw [List.findIdx?_eq_none_iff]
    intro item hitem
    exact beq_eq_false_iff_ne.mpr fun heq => hnot (heq ▸ hitem)
  rw [hordinals]
  show List.findIdx? (· == c) (_ ++ _) = List.findIdx? (· == c) _
  rw [List.findIdx?_append, hnone, Option.map_none, Option.or_none]

/-- Two timelines agree up to a boundary when they have the same boundaries up to it. -/
def AgreeUpTo (timeline timeline' : BoundaryTimeline) (boundary : Nat) : Prop :=
  timeline.upTo boundary = timeline'.upTo boundary

section Agree

variable {timeline' : BoundaryTimeline} {c : Nat}

theorem index_agree (h : timeline.AgreeUpTo timeline' boundary) (hle : c ≤ boundary) :
    timeline.index c = timeline'.index c := by
  rw [index, index, index_upTo hle, index_upTo hle, h]

/-- What stands at the index of a boundary. -/
theorem getElem?_upTo {i : Nat} (hle : c ≤ boundary) (hi : timeline.index c = .ok i) :
    timeline.boundaries[i]? = (timeline.upTo boundary)[i]? := by
  obtain ⟨later, hboundaries, -⟩ := timeline.eq_upTo_append boundary
  have hlt : i < (timeline.upTo boundary).length := by
    rw [index, index_upTo hle] at hi
    split at hi
    · cases hi
    · rename_i found hfound
      obtain rfl := Except.ok.inj hi
      obtain ⟨hlt, -, -⟩ := List.idxOf?_eq_some_iff.mp hfound
      rwa [List.length_map] at hlt
  rw [hboundaries, List.getElem?_append_left hlt]

theorem block_agree (h : timeline.AgreeUpTo timeline' boundary) (hle : c ≤ boundary) {i : Nat}
    (hi : timeline.index c = .ok i) :
    timeline.blocks.getD i 0 = timeline'.blocks.getD i 0 := by
  have hi' := hi
  rw [index_agree h hle] at hi'
  rw [List.getD_eq_getElem?_getD, List.getD_eq_getElem?_getD, blocks, blocks, List.getElem?_map,
    List.getElem?_map, getElem?_upTo hle hi, getElem?_upTo hle hi', h]

/-- **What a boundary is does not depend on what is later.** -/
theorem instant_agree (h : timeline.AgreeUpTo timeline' boundary) (hle : c ≤ boundary) :
    timeline.instant c = timeline'.instant c := by
  rw [instant, instant, ← index_agree h hle]
  cases hi : timeline.index c with
  | error fault => rfl
  | ok i =>
    have hi' := hi
    rw [index_agree h hle] at hi'
    rw [ok_bind, ok_bind, getElem?_upTo hle hi, getElem?_upTo hle hi', h]

theorem requireEvent_agree (h : timeline.AgreeUpTo timeline' boundary) {position : ChainPosition}
    (hle : position.boundaryOrdinal ≤ boundary) :
    timeline.requireEvent position = timeline'.requireEvent position := by
  rw [requireEvent, requireEvent, instant_agree h hle]

/-- **Releases up to a boundary do not depend on what is later.** -/
theorem observationRelease_agree (h : timeline.AgreeUpTo timeline' boundary) (hle : c ≤ boundary)
    (delaySlots : Nat) {release release' : Option Nat}
    (hrelease : timeline.observationRelease c delaySlots = .ok release)
    (hrelease' : timeline'.observationRelease c delaySlots = .ok release') :
    ∀ r ≤ boundary, release = some r ↔ release' = some r := by
  intro r hr
  obtain ⟨i, hi, rfl⟩ := observationRelease_eq_ok hrelease
  obtain ⟨i', hi', rfl⟩ := observationRelease_eq_ok hrelease'
  rw [← index_agree h hle, hi] at hi'
  obtain rfl := Except.ok.inj hi'
  rw [releaseFrom_upTo hr, releaseFrom_upTo hr, ← block_agree h hle hi, h]

theorem orderRelease_agree (h : timeline.AgreeUpTo timeline' boundary) (hle : c ≤ boundary)
    (delaySlots : Nat) {release release' : Option Nat}
    (hrelease : timeline.orderRelease c delaySlots = .ok release)
    (hrelease' : timeline'.orderRelease c delaySlots = .ok release') :
    ∀ r ≤ boundary, release = some r ↔ release' = some r := by
  intro r hr
  obtain ⟨i, hi, rfl⟩ := orderRelease_eq_ok hrelease
  obtain ⟨i', hi', rfl⟩ := orderRelease_eq_ok hrelease'
  rw [← index_agree h hle, hi] at hi'
  obtain rfl := Except.ok.inj hi'
  rw [releaseFrom_upTo hr, releaseFrom_upTo hr, ← block_agree h hle hi, h]

/-- An order decided at a boundary has something to wait for in both timelines, or in neither. -/
def SameHorizon (timeline timeline' : BoundaryTimeline) (delaySlots c : Nat) : Prop :=
  (∃ release, timeline.orderRelease c delaySlots = .ok (some release)) ↔
    ∃ release, timeline'.orderRelease c delaySlots = .ok (some release)

end Agree

end BoundaryTimeline

end Reference

end OnchainBacktest
