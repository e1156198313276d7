import OnchainBacktest.Source.RowReadings

/-!
# What a session has to remember

A session remembers the last order key, the last launch transaction and the lifecycle of the last
transaction.  All of it is about the block of the row it was left by: a row of a later block is
judged the same whether the session has forgotten it or not.  `Agree` is that relation between two
row states, and every row that is no clock row transfers from one to the other.
-/

set_option autoImplicit false

namespace OnchainBacktest

namespace Source

open Checked

/-! ## Agreement -/

/-- Two memories are the same, or both are of blocks before `block`. -/
def AgreeOn {α : Type} (blockOf : α → Nat) (block : Nat) (a b : Option α) : Prop :=
  a = b ∨ (∀ x ∈ a, blockOf x < block) ∧ ∀ x ∈ b, blockOf x < block

def keyBlock (key : OrderKey) : Nat := key.1

/-- The same lifecycle memory. -/
structure SameLifecycle (s f : RowState) : Prop where
  position : s.lifecyclePosition = f.lifecyclePosition
  completion : s.lifecycleCompletion = f.lifecycleCompletion
  seen : s.lifecycleMigrationSeen = f.lifecycleMigrationSeen

/-- Two row states that no row from `block` on tells apart, the clock aside. -/
structure Agree (block : Nat) (s f : RowState) : Prop where
  key : AgreeOn keyBlock block s.lastOrderKey f.lastOrderKey
  launch : AgreeOn Prod.fst block s.lastLaunchTransaction f.lastLaunchTransaction
  lifecycle : SameLifecycle s f ∨ (∀ position ∈ s.lifecyclePosition, position.1 < block) ∧
    ∀ position ∈ f.lifecyclePosition, position.1 < block

/-- A key of a later block is above every key that was forgotten. -/
theorem Agree.key_lt {block : Nat} {s f : RowState} (h : Agree block s f) {key : OrderKey}
    (hblock : block ≤ keyBlock key) (hs : ∀ last ∈ s.lastOrderKey, last < key) :
    ∀ last ∈ f.lastOrderKey, last < key := by
  rcases h.key with hsame | ⟨-, hold⟩
  · exact hsame ▸ hs
  · intro last hlast
    exact Prod.Lex.toLex_lt_toLex.mpr (.inl ((hold last hlast).trans_le hblock))

theorem Agree.launch_ne {block : Nat} {s f : RowState} (h : Agree block s f)
    {transaction : Nat × Nat} (hblock : block ≤ transaction.1)
    (hs : s.lastLaunchTransaction ≠ some transaction) :
    f.lastLaunchTransaction ≠ some transaction := by
  rcases h.launch with hsame | ⟨-, hold⟩
  · exact hsame ▸ hs
  · intro hlast
    exact absurd (hold transaction hlast) (not_lt.mpr hblock)

theorem requireOrder_of_lt {state : RowState} {key : OrderKey}
    {code : PumpfunLiveNormalizationErrorCode} (h : ∀ last ∈ state.lastOrderKey, last < key) :
    state.requireOrder key code = .ok { state with lastOrderKey := some key } := by
  rw [RowState.requireOrder, refuseIf_of_not, ok_bind]
  rintro ⟨last, hlast, hle⟩
  exact absurd (h last hlast) (not_lt.mpr hle)

/-! ## Launches and trades -/

section Transfer

variable {range range' : BlockRange} {s s' f : RowState} {row : Row}
  {output : Option NormalizedRow} {told : Option Observation} {block : Nat}

theorem position_transfer {at_ : RowPosition} (h : position range row = .ok at_)
    (hrange : range'.containsBlock at_.block = true) : position range' row = .ok at_ := by
  rw [position]
  refine bind_transfer h fun ordinal _ h => bind_transfer h fun transaction _ h =>
    bind_transfer h fun raw _ h => ?_
  obtain ⟨-, h⟩ := check_bind_eq_ok.mp h
  have hblock : at_.block = ordinal := by
    obtain ⟨index, -, h⟩ := bind_eq_ok.mp h
    exact congrArg RowPosition.block (Except.ok.inj h).symm
  rw [← hblock, refuseIf_of_not (by rw [hrange]; decide), ok_bind, hblock]
  exact h

theorem normalizeLaunch_transfer (hagree : Agree block s f)
    (hrow : ∀ n : Nat, row.cell "block_ordinal" = .integer n →
      block ≤ n ∧ range'.containsBlock n = true)
    (h : normalizeLaunch range s row = .ok (s', output, told)) :
    ∃ f', normalizeLaunch range' f row = .ok (f', output, told) ∧ Agree block s' f' := by
  obtain ⟨at_, hat, h⟩ := bind_eq_ok.mp h
  obtain ⟨signature, hsignature, h⟩ := bind_eq_ok.mp h
  obtain ⟨mint, hmint, h⟩ := bind_eq_ok.mp h
  obtain ⟨creator, hcreator, h⟩ := bind_eq_ok.mp h
  obtain ⟨creationUser, hcreationUser, h⟩ := bind_eq_ok.mp h
  obtain ⟨curve, hcurve, h⟩ := bind_eq_ok.mp h
  obtain ⟨quoteSource, hsource, h⟩ := bind_eq_ok.mp h
  obtain ⟨hquote, h⟩ := check_bind_eq_ok.mp h
  obtain ⟨mayhem, hmayhem, h⟩ := bind_eq_ok.mp h
  obtain ⟨ordered, hordered, h⟩ := bind_eq_ok.mp h
  obtain ⟨horder, rfl⟩ := RowState.requireOrder_eq_ok hordered
  obtain ⟨hlast, h⟩ := check_bind_eq_ok.mp h
  obtain ⟨hbundle, h⟩ := check_bind_eq_ok.mp h
  obtain ⟨hle, hcovered⟩ := hrow at_.block (position_eq_ok hat).1.block
  have hkey : ∀ last ∈ f.lastOrderKey,
      last < orderKey at_.block at_.transaction at_.rawInstruction signature mint :=
    hagree.key_lt hle horder
  have hnew : f.lastLaunchTransaction ≠ some (at_.block, at_.transaction) :=
    hagree.launch_ne hle (refuseIf_eq_ok.mp hlast)
  rw [normalizeLaunch, position_transfer hat hcovered, ok_bind, hsignature, ok_bind, hmint, ok_bind,
    hcreator, ok_bind, hcreationUser, ok_bind, hcurve, ok_bind, hsource, ok_bind, hquote, ok_bind,
    hmayhem, ok_bind, requireOrder_of_lt hkey, ok_bind, refuseIf_of_not hnew, ok_bind, hbundle,
    ok_bind]
  dsimp only at h ⊢
  by_cases hexcluded : mayhem = true
  · rw [if_pos hexcluded] at h ⊢
    obtain ⟨rfl, houtput⟩ := Prod.mk.inj (Except.ok.inj h)
    obtain ⟨rfl, rfl⟩ := Prod.mk.inj houtput
    exact ⟨_, rfl, .inl rfl, .inl rfl,
      hagree.lifecycle.imp (fun hsame => ⟨hsame.position, hsame.completion, hsame.seen⟩) id⟩
  · rw [if_neg hexcluded] at h ⊢
    obtain ⟨mode, hmode, h⟩ := bind_eq_ok.mp h
    obtain ⟨rfl, houtput⟩ := Prod.mk.inj (Except.ok.inj h)
    obtain ⟨rfl, rfl⟩ := Prod.mk.inj houtput
    rw [hmode, ok_bind]
    exact ⟨_, rfl, .inl rfl, .inl rfl,
      hagree.lifecycle.imp (fun hsame => ⟨hsame.position, hsame.completion, hsame.seen⟩) id⟩

/-- From its order key on, a trade does not look at the session. -/
theorem normalizeTrade_transfer {feeProfile : PumpFeeProfile} (hagree : Agree block s f)
    (hrow : ∀ n : Nat, row.cell "block_ordinal" = .integer n →
      block ≤ n ∧ range'.containsBlock n = true)
    (h : normalizeTrade feeProfile range s row = .ok (s', output, told)) :
    ∃ f', normalizeTrade feeProfile range' f row = .ok (f', output, told) ∧ Agree block s' f' := by
  obtain ⟨at_, hat, h⟩ := bind_eq_ok.mp h
  obtain ⟨signature, hsignature, h⟩ := bind_eq_ok.mp h
  obtain ⟨mint, hmint, h⟩ := bind_eq_ok.mp h
  obtain ⟨curve, hcurve, h⟩ := bind_eq_ok.mp h
  obtain ⟨quoteSource, hsource, h⟩ := bind_eq_ok.mp h
  obtain ⟨hquote, h⟩ := check_bind_eq_ok.mp h
  obtain ⟨failed, hfailed, h⟩ := bind_eq_ok.mp h
  obtain ⟨hsucceeded, h⟩ := check_bind_eq_ok.mp h
  obtain ⟨mayhem, hmayhem, h⟩ := bind_eq_ok.mp h
  obtain ⟨heligible, h⟩ := check_bind_eq_ok.mp h
  obtain ⟨mode, hmode, h⟩ := bind_eq_ok.mp h
  obtain ⟨sources, hsources, h⟩ := bind_eq_ok.mp h
  obtain ⟨variants, hvariants, h⟩ := bind_eq_ok.mp h
  obtain ⟨hcounts, h⟩ := check_bind_eq_ok.mp h
  obtain ⟨ordered, hordered, h⟩ := bind_eq_ok.mp h
  obtain ⟨horder, rfl⟩ := RowState.requireOrder_eq_ok hordered
  obtain ⟨hle, hcovered⟩ := hrow at_.block (position_eq_ok hat).1.block
  have hkey : ∀ last ∈ f.lastOrderKey,
      last < orderKey at_.block at_.transaction at_.rawInstruction signature mint :=
    hagree.key_lt hle horder
  rw [normalizeTrade, position_transfer hat hcovered, ok_bind, hsignature, ok_bind, hmint, ok_bind,
    hcurve, ok_bind, hsource, ok_bind, hquote, ok_bind, hfailed, ok_bind, hsucceeded, ok_bind,
    hmayhem, ok_bind, heligible, ok_bind, hmode, ok_bind, hsources, ok_bind, hvariants, ok_bind,
    hcounts, ok_bind, requireOrder_of_lt hkey, ok_bind]
  obtain ⟨direction, hdirection, h⟩ := bind_eq_ok.mp h
  obtain ⟨instruction, hinstruction, h⟩ := bind_eq_ok.mp h
  obtain ⟨hsupported, h⟩ := check_bind_eq_ok.mp h
  obtain ⟨baseAmount, hbase, h⟩ := bind_eq_ok.mp h
  obtain ⟨quoteAmount, hamount, h⟩ := bind_eq_ok.mp h
  obtain ⟨hamounts, h⟩ := check_bind_eq_ok.mp h
  obtain ⟨after, hafter, h⟩ := bind_eq_ok.mp h
  obtain ⟨time, htime, h⟩ := bind_eq_ok.mp h
  obtain ⟨fees, hfees, h⟩ := bind_eq_ok.mp h
  obtain ⟨rfl, houtput⟩ := Prod.mk.inj (Except.ok.inj h)
  obtain ⟨rfl, rfl⟩ := Prod.mk.inj houtput
  rw [hdirection, ok_bind, hinstruction, ok_bind, hsupported, ok_bind, hbase, ok_bind, hamount,
    ok_bind, hamounts, ok_bind, hafter, ok_bind, htime, ok_bind, hfees, ok_bind]
  exact ⟨_, rfl, .inl rfl, hagree.launch,
    hagree.lifecycle.imp (fun hsame => ⟨hsame.position, hsame.completion, hsame.seen⟩) id⟩

/-! ## Completions and migrations -/

variable {fields : LifecycleFields}

/-- What a lifecycle row leaves alone once its order key is in. -/
structure SameOrder (s s' : RowState) : Prop where
  key : s'.lastOrderKey = s.lastOrderKey
  launch : s'.lastLaunchTransaction = s.lastLaunchTransaction

/-- `body` reads only the lifecycle memory. -/
def ReadsLifecycle (body : RowState → Except LiveFault RowOutcome) : Prop :=
  ∀ s f s' output told, SameLifecycle s f → body s = .ok (s', output, told) →
    ∃ f', body f = .ok (f', output, told) ∧ SameLifecycle s' f' ∧ SameOrder s s' ∧ SameOrder f f'

theorem normalizeCompletion_reads :
    ReadsLifecycle fun state => normalizeCompletion state row fields := by
  intro s f s' output told hsame h
  obtain ⟨raw, virtualSol, -, -, -, -, -, -, -, -, hstate⟩ := normalizeCompletion_eq_ok h
  refine ⟨{ f with lifecycleCompletion := s'.lifecycleCompletion }, ?_, ?_, ?_, ⟨rfl, rfl⟩⟩
  · show normalizeCompletion f row fields = _
    rw [normalizeCompletion, ← hsame.completion, ← hsame.seen]
    refine bind_transfer h fun _ _ h => bind_transfer h fun _ _ h => bind_transfer h fun _ _ h =>
      bind_transfer h fun _ _ h => bind_transfer h fun _ _ h => bind_transfer h fun _ _ h =>
      bind_transfer h fun _ _ h => bind_transfer h fun _ _ h => bind_transfer h fun _ _ h =>
      bind_transfer h fun _ _ h => ?_
    obtain ⟨rfl, houtput⟩ := Prod.mk.inj (Except.ok.inj h)
    rw [houtput]
  · rw [hstate]
    exact ⟨hsame.position, rfl, hsame.seen⟩
  · rw [hstate]
    exact ⟨rfl, rfl⟩

theorem normalizeDerivedMigration_reads {virtualSol : Nat} :
    ReadsLifecycle fun state => normalizeDerivedMigration state row fields virtualSol := by
  intro s f s' output told hsame h
  obtain ⟨raw, -, -, -, -, -, hstate⟩ := normalizeDerivedMigration_eq_ok h
  refine ⟨{ f with
    lifecycleGroups := f.lifecycleGroups ++ told.toList
    lifecycleMigrationSeen := true }, ?_, ?_, ?_, ⟨rfl, rfl⟩⟩
  · show normalizeDerivedMigration f row fields virtualSol = _
    rw [normalizeDerivedMigration, ← hsame.completion]
    refine bind_transfer h fun _ _ h => bind_transfer h fun _ _ h => bind_transfer h fun _ _ h =>
      bind_transfer h fun _ _ h => bind_transfer h fun _ _ h => bind_transfer h fun _ _ h =>
      bind_transfer h fun _ _ h => bind_transfer h fun _ _ h => bind_transfer h fun _ _ h =>
      bind_transfer h fun _ _ h => bind_transfer h fun _ _ h => ?_
    obtain ⟨rfl, houtput⟩ := Prod.mk.inj (Except.ok.inj h)
    obtain ⟨rfl, rfl⟩ := Prod.mk.inj houtput
    rfl
  · rw [hstate]
    exact ⟨hsame.position, hsame.completion, rfl⟩
  · rw [hstate]
    exact ⟨rfl, rfl⟩

theorem normalizeStandaloneMigration_reads {virtualSol : Nat} :
    ReadsLifecycle fun state => normalizeStandaloneMigration state row fields virtualSol := by
  intro s f s' output told hsame h
  obtain ⟨-, -, -, hstate⟩ := normalizeStandaloneMigration_eq_ok h
  refine ⟨{ f with lifecycleMigrationSeen := true }, ?_, ?_, ?_, ⟨rfl, rfl⟩⟩
  · show normalizeStandaloneMigration f row fields virtualSol = _
    rw [normalizeStandaloneMigration, ← hsame.completion]
    refine bind_transfer h fun _ _ h => bind_transfer h fun _ _ h => bind_transfer h fun _ _ h =>
      bind_transfer h fun _ _ h => bind_transfer h fun _ _ h => bind_transfer h fun _ _ h =>
      bind_transfer h fun _ _ h => ?_
    obtain ⟨-, houtput⟩ := Prod.mk.inj (Except.ok.inj h)
    rw [houtput]
  · rw [hstate]
    exact ⟨hsame.position, hsame.completion, rfl⟩
  · rw [hstate]
    exact ⟨rfl, rfl⟩

theorem normalizeMigration_reads :
    ReadsLifecycle fun state => normalizeMigration state row fields := by
  intro s f s' output told hsame h
  obtain ⟨hnew, h⟩ := check_bind_eq_ok.mp h
  obtain ⟨user, huser, h⟩ := bind_eq_ok.mp h
  obtain ⟨pool, hpool, h⟩ := bind_eq_ok.mp h
  obtain ⟨mintAmount, hmintAmount, h⟩ := bind_eq_ok.mp h
  obtain ⟨hamount, h⟩ := check_bind_eq_ok.mp h
  obtain ⟨migrationSol, hsol, h⟩ := bind_eq_ok.mp h
  obtain ⟨migrationFee, hfee, h⟩ := bind_eq_ok.mp h
  obtain ⟨hfees, h⟩ := check_bind_eq_ok.mp h
  obtain ⟨timestamp, htimestamp, h⟩ := bind_eq_ok.mp h
  obtain ⟨realSol, hreal, h⟩ := bind_eq_ok.mp h
  obtain ⟨virtualSol, hvirtual, h⟩ := bind_eq_ok.mp h
  show ∃ f', normalizeMigration f row fields = _ ∧ _
  rw [normalizeMigration, ← hsame.seen, hnew, ok_bind, huser, ok_bind, hpool, ok_bind, hmintAmount,
    ok_bind, hamount, ok_bind, hsol, ok_bind, hfee, ok_bind, hfees, ok_bind, htimestamp, ok_bind,
    hreal, ok_bind, hvirtual, ok_bind]
  by_cases hterminal : ∃ name ∈ TERMINAL_COLUMNS, row.cell name ≠ .null
  · rw [if_pos hterminal] at h ⊢
    exact normalizeDerivedMigration_reads s f s' output told hsame h
  · rw [if_neg hterminal] at h ⊢
    exact normalizeStandaloneMigration_reads s f s' output told hsame h

/-- At a later transaction both sessions begin its lifecycle anew, at the same one both go on. -/
theorem Agree.startLifecyclePosition {transaction : Nat} {n : Nat} {key : OrderKey}
    (h : Agree block s f) (hle : block ≤ n) :
    SameLifecycle
      (RowState.startLifecyclePosition { s with lastOrderKey := some key } n transaction)
      (RowState.startLifecyclePosition { f with lastOrderKey := some key } n transaction) := by
  have hfresh : ∀ {state : RowState}, state.lifecyclePosition ≠ some (n, transaction) →
      RowState.startLifecyclePosition { state with lastOrderKey := some key } n transaction =
        { state with
          lastOrderKey := some key
          lifecyclePosition := some (n, transaction)
          lifecycleCompletion := none
          lifecycleMigrationSeen := false } := fun hne => if_neg hne
  have hkept : ∀ {state : RowState}, state.lifecyclePosition = some (n, transaction) →
      RowState.startLifecyclePosition { state with lastOrderKey := some key } n transaction =
        { state with lastOrderKey := some key } := fun heq => if_pos heq
  rcases h.lifecycle with hsame | ⟨hs, hf⟩
  · by_cases hposition : s.lifecyclePosition = some (n, transaction)
    · rw [hkept hposition, hkept (hsame.position ▸ hposition)]
      exact ⟨hsame.position, hsame.completion, hsame.seen⟩
    · rw [hfresh hposition, hfresh (hsame.position ▸ hposition)]
      exact ⟨rfl, rfl, rfl⟩
  · rw [hfresh fun heq => absurd (hs _ heq) (not_lt.mpr hle),
      hfresh fun heq => absurd (hf _ heq) (not_lt.mpr hle)]
    exact ⟨rfl, rfl, rfl⟩

theorem startLifecyclePosition_order {transaction n : Nat} :
    SameOrder s (s.startLifecyclePosition n transaction) := by
  rw [RowState.startLifecyclePosition]
  split
  · exact ⟨rfl, rfl⟩
  · exact ⟨rfl, rfl⟩

theorem normalizeLifecycle_transfer (hagree : Agree block s f)
    (hrow : ∀ n : Nat, row.cell "block_ordinal" = .integer n →
      block ≤ n ∧ range'.containsBlock n = true)
    (h : normalizeLifecycle range s row = .ok (s', output, told)) :
    ∃ f', normalizeLifecycle range' f row = .ok (f', output, told) ∧ Agree block s' f' := by
  obtain ⟨n, hn, h⟩ := bind_eq_ok.mp h
  obtain ⟨transaction, htransaction, h⟩ := bind_eq_ok.mp h
  obtain ⟨-, h⟩ := check_bind_eq_ok.mp h
  obtain ⟨time, htime, h⟩ := bind_eq_ok.mp h
  obtain ⟨signature, hsignature, h⟩ := bind_eq_ok.mp h
  obtain ⟨mint, hmint, h⟩ := bind_eq_ok.mp h
  obtain ⟨curve, hcurve, h⟩ := bind_eq_ok.mp h
  obtain ⟨mayhem, hmayhem, h⟩ := bind_eq_ok.mp h
  obtain ⟨heligible, h⟩ := check_bind_eq_ok.mp h
  obtain ⟨mode, hmode, h⟩ := bind_eq_ok.mp h
  obtain ⟨candidate, hcandidate, h⟩ := bind_eq_ok.mp h
  obtain ⟨hkind, h⟩ := check_bind_eq_ok.mp h
  obtain ⟨ordered, hordered, h⟩ := bind_eq_ok.mp h
  obtain ⟨horder, rfl⟩ := RowState.requireOrder_eq_ok hordered
  obtain ⟨sources, hsources, h⟩ := bind_eq_ok.mp h
  obtain ⟨hsource, h⟩ := check_bind_eq_ok.mp h
  obtain ⟨variants, hvariants, h⟩ := bind_eq_ok.mp h
  obtain ⟨hvariant, h⟩ := check_bind_eq_ok.mp h
  obtain ⟨hle, hcovered⟩ := hrow n (uintUpTo_eq_ok.mp hn).1
  have hkey : ∀ last ∈ f.lastOrderKey, last < orderKey n transaction
      (if candidate = "COMPLETION_CANDIDATE" then 0 else 1) signature mint :=
    hagree.key_lt hle horder
  rw [normalizeLifecycle, hn, ok_bind, htransaction, ok_bind,
    refuseIf_of_not (by rw [hcovered]; decide), ok_bind, htime, ok_bind, hsignature, ok_bind, hmint,
    ok_bind, hcurve, ok_bind, hmayhem, ok_bind, heligible, ok_bind, hmode, ok_bind, hcandidate,
    ok_bind, hkind, ok_bind, requireOrder_of_lt hkey, ok_bind, hsources, ok_bind, hsource, ok_bind,
    hvariants, ok_bind, hvariant, ok_bind]
  dsimp only at h ⊢
  have hreads : ReadsLifecycle fun state =>
      if candidate = "COMPLETION_CANDIDATE" then
        normalizeCompletion state row ⟨n, transaction, signature, mint, curve, mode⟩
      else normalizeMigration state row ⟨n, transaction, signature, mint, curve, mode⟩ := by
    by_cases hcase : candidate = "COMPLETION_CANDIDATE"
    · simp only [if_pos hcase]
      exact normalizeCompletion_reads
    · simp only [if_neg hcase]
      exact normalizeMigration_reads
  obtain ⟨f', hf', hsame, hs, hf⟩ :=
    hreads _ _ _ _ _ (hagree.startLifecyclePosition hle) h
  refine ⟨f', hf', ?_, ?_, .inl hsame⟩
  · rw [hs.key, hf.key, startLifecyclePosition_order.key, startLifecyclePosition_order.key]
    exact .inl rfl
  · rw [hs.launch, hf.launch, startLifecyclePosition_order.launch,
      startLifecyclePosition_order.launch]
    exact hagree.launch

end Transfer

end Source

end OnchainBacktest
