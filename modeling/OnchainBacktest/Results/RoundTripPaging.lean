import OnchainBacktest.Results.RunReader
import OnchainBacktest.Results.WrittenTables

/-!
# Paging through a round-trip table

Whatever readers are opened and used, and whatever the cache of verified runs drops, what a reader
and the cache remember of a run is true of it (`sound_of_reachable`).  A call for a page returns
exactly when the run is in order, and then it returns the page of its records
(`roundtrips_spec`).  So every reader of a run serves the same pages, and whoever follows their
cursors from the start reads each record once, in key order, and comes to an end
(`roundtrip_paging`).
-/

set_option autoImplicit false

namespace OnchainBacktest

namespace Results

open Checked PositionFamily

section Paging

variable {ρ : Type} [PositionFamily ρ] [CanonicalStreamHash]

/-! ## What is remembered -/

/-- The tables of a run are in order, and an index that is kept is the one of its table. -/
structure Proven (ρ : Type) [PositionFamily ρ] (run : StoredRun) (index : Option PageIndex) :
    Prop where
  balances : run.balances = .ok ()
  table : ∃ records : List ρ, Verified run.manifest run.file records
  index : ∀ entries ∈ index, entries = sparseIndex run.file

/-- What a reader of a run remembers is true of the run. -/
structure Reader.Sound (ρ : Type) [PositionFamily ρ] (run : StoredRun) (reader : Reader) :
    Prop where
  balances : reader.balancesVerified = true → run.balances = .ok ()
  table : reader.roundtripsVerified = true →
    ∃ records : List ρ, Verified run.manifest run.file records
  index : ∀ entries ∈ reader.pageIndex, entries = sparseIndex run.file

/-- What a cache remembers is true of the runs. -/
def CacheSound (ρ : Type) [PositionFamily ρ] (store : RunId → Option StoredRun)
    (cache : SemanticCache) : Prop :=
  cache.All fun id index => ∃ run, store id = some run ∧ Proven ρ run index

/-- A session whose memory is true of the run it reads. -/
structure Session.Sound (ρ : Type) [PositionFamily ρ] (store : RunId → Option StoredRun)
    (run : StoredRun) (session : Session) : Prop where
  stored : store session.reader.artifactId = some run
  cache : CacheSound ρ store session.cache
  reader : session.reader.Sound ρ run

/-- A factory whose memory is true of the runs. -/
structure Factory.Sound (ρ : Type) [PositionFamily ρ] (store : RunId → Option StoredRun)
    (factory : Factory) : Prop where
  cache : CacheSound ρ store factory.cache
  readers : ∀ reader ∈ factory.readers, ∃ run, store reader.artifactId = some run ∧
    reader.Sound ρ run

/-! ## What a call leaves behind -/

section Calls

variable {store : RunId → Option StoredRun} {run : StoredRun} {session : Session} {evicted : Bool}

/-- The looks at the cache find what is true of the run. -/
theorem probe_sound {cache : SemanticCache} (hcache : CacheSound ρ store cache) {id : RunId}
    (hrun : store id = some run) (evicted : Bool) :
    CacheSound ρ store (probe id cache evicted).2.2 ∧
      if (probe id cache evicted).1 then Proven ρ run (probe id cache evicted).2.1
      else (probe id cache evicted).2.1 = none := by
  rw [probe]
  cases hfind : cache.find? id with
  | none => exact ⟨hcache, rfl⟩
  | some index =>
    obtain ⟨found, hfound, hproven⟩ := hcache.find? hfind
    obtain rfl := Option.some.inj (hrun.symm.trans hfound)
    cases evicted with
    | true => exact ⟨hcache.remove id, ⟨hproven.balances, hproven.table, by simp⟩⟩
    | false => exact ⟨hcache.touch id, hproven⟩

/-- A reader that finds its run verified knows that it is in order. -/
theorem isSemanticallyVerified_sound (h : session.Sound ρ store run) (evicted : Bool) :
    ∃ verified after, (isSemanticallyVerified evicted).run session = (.ok verified, after) ∧
      after.Sound ρ store run ∧
      (verified = true → run.balances = .ok () ∧
        ∃ records : List ρ, Verified run.manifest run.file records) := by
  have hprobe := probe_sound h.cache h.stored evicted
  by_cases hflags : session.reader.balancesVerified = true ∧
      session.reader.roundtripsVerified = true
  · simp only [isSemanticallyVerified, if_pos hflags]
    exact ⟨true, session, rfl, h, fun _ => ⟨h.reader.balances hflags.1, h.reader.table hflags.2⟩⟩
  · by_cases hshared : session.reader.shared = false
    · simp only [isSemanticallyVerified, if_neg hflags, if_pos hshared]
      exact ⟨false, session, rfl, h, by simp⟩
    · simp only [isSemanticallyVerified, if_neg hflags, if_neg hshared]
      generalize probe session.reader.artifactId session.cache evicted = looks at hprobe
      obtain ⟨verified, index, cache⟩ := looks
      obtain ⟨hcache, hfound⟩ := hprobe
      cases verified with
      | false => exact ⟨false, _, rfl, ⟨h.stored, hcache, h.reader⟩, by simp⟩
      | true =>
        have hproven : Proven ρ run index := hfound
        exact ⟨true, _, rfl, ⟨h.stored, hcache, ⟨fun _ => hproven.balances, fun _ => hproven.table,
          hproven.index⟩⟩, fun _ => ⟨hproven.balances, hproven.table⟩⟩

/-- What a reader publishes is true of the run. -/
theorem mark_sound (h : session.Sound ρ store run) :
    (markSemanticallyVerified session).Sound ρ store run := by
  rw [markSemanticallyVerified]
  split
  · rename_i hflags
    refine ⟨h.stored, h.cache.put ⟨run, h.stored, ?_⟩, h.reader⟩
    exact ⟨h.reader.balances hflags.1, h.reader.table hflags.2.1, h.reader.index⟩
  · exact h

/-- Verifying the balance table returns when it is in order. -/
theorem verifyFinalBalances_sound (h : session.Sound ρ store run) :
    ∃ result after, (verifyFinalBalances run).run session = (result, after) ∧
      after.Sound ρ store run ∧ (result = .ok () ↔ run.balances = .ok ()) := by
  by_cases hflag : session.reader.balancesVerified = true
  · simp only [verifyFinalBalances, if_pos hflag]
    exact ⟨_, _, rfl, h, by simp [h.reader.balances hflag]⟩
  · simp only [verifyFinalBalances, if_neg hflag]
    cases hbalances : run.balances with
    | error e => exact ⟨_, _, rfl, h, by simp⟩
    | ok u =>
      refine ⟨_, _, rfl, mark_sound ⟨h.stored, h.cache, ?_⟩, by simp⟩
      exact ⟨fun _ => hbalances, h.reader.table, h.reader.index⟩

/-- Scanning returns when the table is in order. -/
theorem scan_sound (h : session.Sound ρ store run) {limit : Nat}
    (hlimit : limit ≤ MAX_ROUNDTRIP_PAGE_SIZE) (after : Option RoundTripCursor) :
    ∃ result left, (scan ρ run after limit).run session = (result, left) ∧
      left.Sound ρ store run ∧
      ∀ page, result = .ok page ↔ ∃ records : List ρ, Verified run.manifest run.file records ∧
        page = pageOf records after limit := by
  have hscan : ∀ result : RoundTripPage ρ × PageIndex,
      scanRoundtrips run.manifest run.file after limit = .ok result ↔
        ∃ records, Verified run.manifest run.file records ∧
          result = (pageOf records after limit, sparseIndex run.file) :=
    fun _ => scanRoundtrips_eq_ok hlimit after
  rw [scan]
  dsimp only
  cases hresult : scanRoundtrips (ρ := ρ) run.manifest run.file after limit with
  | error e =>
    refine ⟨_, _, rfl, h, fun page => ⟨fun hok => ?_, ?_⟩⟩
    · cases hok
    · rintro ⟨records, hverified, rfl⟩
      have hok := (hscan _).mpr ⟨records, hverified, rfl⟩
      rw [hresult] at hok
      cases hok
  | ok found =>
    obtain ⟨records, hverified, rfl⟩ := (hscan found).mp hresult
    refine ⟨_, _, rfl, mark_sound ⟨h.stored, h.cache, ?_⟩, fun page => ?_⟩
    · exact ⟨h.reader.balances, fun _ => ⟨records, hverified⟩, by simp⟩
    · rw [Except.ok.injEq]
      constructor
      · rintro rfl
        exact ⟨records, hverified, rfl⟩
      · rintro ⟨records', hverified', rfl⟩
        have hok := (hscan _).mpr ⟨records', hverified', rfl⟩
        rw [hresult] at hok
        exact (Prod.mk.inj (Except.ok.inj hok)).1

/-- **`verify` leaves a true memory.** -/
theorem verify_sound (h : session.Sound ρ store run) (evicted : Bool) :
    ((verify ρ run evicted).run session).2.Sound ρ store run := by
  obtain ⟨verified, looked, hlook, hlooked, _⟩ := isSemanticallyVerified_sound h evicted
  rw [verify, Method.run_bind_ok hlook]
  cases verified with
  | true => exact hlooked
  | false =>
    obtain ⟨result, weighed, hweigh, hweighed, _⟩ := verifyFinalBalances_sound hlooked
    cases result with
    | error e =>
      rw [if_neg Bool.false_ne_true, Method.run_bind_error hweigh]
      exact hweighed
    | ok u =>
      rw [if_neg Bool.false_ne_true, Method.run_bind_ok hweigh, Method.run_ask_bind, id]
      split
      · exact hweighed
      · obtain ⟨result, left, hscan, hleft, _⟩ :=
          scan_sound hweighed (Nat.zero_le MAX_ROUNDTRIP_PAGE_SIZE) none
        cases result with
        | error e =>
          rw [Method.run_bind_error hscan]
          exact hleft
        | ok page =>
          rw [Method.run_bind_ok hscan]
          exact hleft

/-- **A call for a page.**  It leaves a true memory, and returns exactly when the limit is one of a
page and the run is in order and has positions; the page is the one of its records. -/
theorem roundtrips_spec (h : session.Sound ρ store run) (evicted : Bool)
    (after : Option RoundTripCursor) (limit : Nat) :
    ((roundtrips ρ run evicted after limit).run session).2.Sound ρ store run ∧
      ∀ page, ((roundtrips ρ run evicted after limit).run session).1 = .ok page ↔
        (1 ≤ limit ∧ limit ≤ MAX_ROUNDTRIP_PAGE_SIZE) ∧ run.manifest.summary ≠ .firstSwap ∧
          run.balances = .ok () ∧ ∃ records : List ρ, Verified run.manifest run.file records ∧
            page = pageOf records after limit := by
  have hcall : checkCall run limit = .ok () ↔
      (1 ≤ limit ∧ limit ≤ MAX_ROUNDTRIP_PAGE_SIZE) ∧ run.manifest.summary ≠ .firstSwap := by
    rw [checkCall, check_bind_eq_ok, refuseIf_eq_ok, refuseIf_eq_ok, not_not]
  cases hcheck : checkCall run limit with
  | error e =>
    rw [roundtrips, Method.run_read_bind_error (f := fun _ => checkCall run limit) hcheck]
    refine ⟨h, fun page => ⟨fun hok => ?_, fun hall => ?_⟩⟩
    · cases hok
    · rw [hcall.mpr ⟨hall.1, hall.2.1⟩] at hcheck
      cases hcheck
  | ok u =>
    obtain ⟨hlimit, hfamily⟩ := hcall.mp hcheck
    obtain ⟨verified, looked, hlook, hlooked, hproof⟩ := isSemanticallyVerified_sound h evicted
    rw [roundtrips, Method.run_read_bind_ok (f := fun _ => checkCall run limit) hcheck,
      Method.run_bind_ok hlook]
    cases verified with
    | true =>
      obtain ⟨hbalances, records, hverified⟩ := hproof rfl
      have hpage := fun records (hverified : Verified run.manifest run.file records) =>
        readRoundtripPage_eq (ρ := ρ) hverified hlimit.2 hlooked.reader.index after hlimit.1
      refine ⟨hlooked, fun page => ?_⟩
      rw [if_pos rfl, Method.run_read]
      constructor
      · intro hok
        rw [hpage records hverified] at hok
        exact ⟨hlimit, hfamily, hbalances, records, hverified, (Except.ok.inj hok).symm⟩
      · rintro ⟨_, _, _, records, hverified, rfl⟩
        exact hpage records hverified
    | false =>
      obtain ⟨result, weighed, hweigh, hweighed, hresult⟩ := verifyFinalBalances_sound hlooked
      rw [if_neg Bool.false_ne_true]
      cases result with
      | error e =>
        rw [Method.run_bind_error hweigh]
        refine ⟨hweighed, fun page => ⟨fun hok => ?_, fun hall => ?_⟩⟩
        · cases hok
        · exact absurd (hresult.mpr hall.2.2.1) (by simp)
      | ok u =>
        obtain ⟨found, left, hscan, hleft, hfound⟩ := scan_sound hweighed hlimit.2 after
        rw [Method.run_bind_ok hweigh, hscan]
        refine ⟨hleft, fun page => (hfound page).trans ?_⟩
        exact ⟨fun hok => ⟨hlimit, hfamily, hresult.mp rfl, hok⟩, fun hall => hall.2.2.2⟩

end Calls

/-! ## Runs of a factory -/

section Runs

variable {store : RunId → Option StoredRun} {capacity : Nat} {factory : Factory} {reader : Reader}
  {run : StoredRun} {n : Nat}

theorem Factory.Sound.session (h : factory.Sound ρ store)
    (hreader : factory.readers[n]? = some reader) (hrun : store reader.artifactId = some run) :
    (factory.session reader).Sound ρ store run := by
  obtain ⟨found, hfound, hsound⟩ := h.readers reader (List.mem_of_getElem? hreader)
  obtain rfl := Option.some.inj (hrun.symm.trans hfound)
  exact ⟨hrun, h.cache, hsound⟩

theorem Factory.Sound.after (h : factory.Sound ρ store) {session : Session}
    (hsession : session.Sound ρ store run) (n : Nat) : (factory.after n session).Sound ρ store where
  cache := hsession.cache
  readers := by
    intro other hother
    rcases List.mem_or_eq_of_mem_set hother with hother | rfl
    · exact h.readers other hother
    · exact ⟨run, hsession.stored, hsession.reader⟩

theorem Factory.Sound.concat {cache : SemanticCache} (h : factory.Sound ρ store)
    (hcache : CacheSound ρ store cache) (hrun : store reader.artifactId = some run)
    (hreader : reader.Sound ρ run) :
    Factory.Sound ρ store ⟨cache, factory.readers ++ [reader]⟩ where
  cache := hcache
  readers := by
    intro other hother
    rcases List.mem_append.mp hother with hother | hother
    · exact h.readers other hother
    · obtain rfl := List.mem_singleton.mp hother
      exact ⟨run, hrun, hreader⟩

/-- A reader that is opened knows what the cache knows. -/
theorem Factory.Sound.opened (h : factory.Sound ρ store) {id : RunId} (hrun : store id = some run)
    (evicted : Bool) : (openedSession factory id evicted).Sound ρ store run := by
  obtain ⟨hcache, hfound⟩ := probe_sound h.cache hrun evicted
  rw [openedSession]
  generalize probe id factory.cache evicted = looks at hcache hfound
  obtain ⟨verified, index, cache⟩ := looks
  refine ⟨hrun, hcache, ?_⟩
  cases verified with
  | true =>
    have hproven : Proven ρ run index := hfound
    exact ⟨fun _ => hproven.balances, fun _ => hproven.table, hproven.index⟩
  | false =>
    obtain rfl : index = none := hfound
    exact ⟨by simp, by simp, by simp⟩

/-- **What is remembered is true**, after any opening and using of readers. -/
theorem sound_of_reachable (h : Reachable ρ store capacity factory) : factory.Sound ρ store := by
  induction h with
  | start => exact ⟨LruCache.all_empty capacity, by simp⟩
  | opened id evicted _ hrun ih =>
    have hopened := ih.opened hrun evicted
    exact ih.concat hopened.cache hrun hopened.reader
  | @standalone factory run id _ hrun ih =>
    exact ih.concat ih.cache hrun ⟨by simp, by simp, by simp⟩
  | verified evicted _ hreader hrun ih =>
    exact ih.after (verify_sound (ih.session hreader hrun) evicted) _
  | paged evicted after limit _ hreader hrun ih =>
    exact ih.after (roundtrips_spec (ih.session hreader hrun) evicted after limit).1 _

end Runs

/-! ## Following the cursors -/

/-- A call for a page of a run: a reader of the run at some moment, and a limit of a page. -/
structure Visit (ρ : Type) [PositionFamily ρ] [CanonicalStreamHash]
    (store : RunId → Option StoredRun) (id : RunId) where
  capacity : Nat
  factory : Factory
  reached : Reachable ρ store capacity factory
  n : Nat
  reader : Reader
  opened : factory.readers[n]? = some reader
  artifact : reader.artifactId = id
  evicted : Bool
  limit : Nat
  positive : 0 < limit
  bounded : limit ≤ MAX_ROUNDTRIP_PAGE_SIZE

/-- What the call returns. -/
def Visit.page {store : RunId → Option StoredRun} {id : RunId} (run : StoredRun)
    (visit : Visit ρ store id) (after : Option RoundTripCursor) :
    Except ReadError (RoundTripPage ρ) :=
  ((roundtrips ρ run visit.evicted after visit.limit).run
    (visit.factory.session visit.reader)).1

/-- A run with positions whose tables are in order. -/
structure Complete (run : StoredRun) (records : List ρ) : Prop where
  positions : run.manifest.summary ≠ .firstSwap
  balances : run.balances = .ok ()
  table : Verified run.manifest run.file records

/-- **Paging through a round-trip table.**  Whoever follows the cursors of the pages from the start,
each page read by any reader of the run at any moment, reads the records in key order, each once,
and is at the end when the limits add up to their number; any single call returns the page of the
records after its cursor.  The page read through the index is the page of the scan.  The index has
at most 1024 entries; it ends at the last row group, unless the table has no row and the index is
empty; and what it skips is not above the cursor. -/
theorem roundtrip_paging {store : RunId → Option StoredRun} {id : RunId} {run : StoredRun}
    (hstored : store id = some run) {records : List ρ} (hrun : Complete run records) :
    (∀ visits : List (Visit ρ store id),
      Paging.walk (Visit.page run) visits none
        = .ok (records.take (visits.map (·.limit)).sum,
          decide (visits ≠ [] ∧ records.length ≤ (visits.map (·.limit)).sum))) ∧
    (∀ (visit : Visit ρ store id) (after : Option RoundTripCursor),
      visit.page run after = .ok (pageOf records after visit.limit)) ∧
    (∀ (after : Option RoundTripCursor) (limit : Nat), 0 < limit → limit ≤ MAX_ROUNDTRIP_PAGE_SIZE →
      scanRoundtrips run.manifest run.file after limit
          = .ok (pageOf records after limit, sparseIndex run.file) ∧
        readRoundtripPage run.manifest run.file (some (sparseIndex run.file)) after limit
          = .ok (pageOf records after limit)) ∧
    (sparseIndex run.file).length ≤ MAX_ROUNDTRIP_PAGE_CHECKPOINTS ∧
    (if run.file.rows = [] then sparseIndex run.file = []
      else ∃ maximum,
        (sparseIndex run.file).getLast? = some (run.file.rowGroups.length - 1, maximum)) ∧
    ∀ cursor : RowKey, ∃ first,
      roundtripRowGroupsAfter (some (sparseIndex run.file)) run.file.rowGroups.length (some cursor)
          = .ok first ∧
        ∀ row ∈ (run.file.rowGroups.take first).flatten, row.indexedKey ≤ cursor := by
  have hcall : ∀ (visit : Visit ρ store id) (after : Option RoundTripCursor),
      visit.page run after = .ok (pageOf records after visit.limit) := by
    intro visit after
    have hreader : store visit.reader.artifactId = some run := by rw [visit.artifact, hstored]
    have hsession := (sound_of_reachable visit.reached).session visit.opened hreader
    exact ((roundtrips_spec hsession visit.evicted after visit.limit).2 _).mpr
      ⟨⟨visit.positive, visit.bounded⟩, hrun.positions, hrun.balances, records, hrun.table, rfl⟩
  have hkeys : (run.file.rows.map RoundTripRow.indexedKey).Pairwise (· < ·) := by
    rw [map_indexedKey hrun.table.decoded]
    exact hrun.table.ordered
  refine ⟨fun visits => ?_, hcall, fun after limit hpositive hlimit => ⟨?_, ?_⟩,
    length_sparseIndex_le, ?_, fun cursor => ?_⟩
  · have hread : ∀ visit ∈ visits, ∀ after, True → Visit.page run visit after
        = .ok ((Paging.page cursorAt RoundTripCursor.key records after visit.limit).map
            fun record => record) := by
      intro visit _ after _
      rw [Paging.Page.map_self]
      exact hcall visit after
    have hwalk := @Paging.walk_eq ρ RoundTripCursor RowKey _ _ _ cursorAt RoundTripCursor.key records
      ρ (fun record => record) hrun.table.ordered (Visit.page run) (fun visit => visit.limit) visits
      (fun _ => True) (fun _ _ => trivial) hread (fun visit _ => visit.positive) none trivial
    simpa using hwalk
  · exact (scanRoundtrips_eq_ok hlimit after).mpr ⟨records, hrun.table, rfl⟩
  · exact readRoundtripPage_eq hrun.table hlimit (by simp) after hpositive
  · split
    · rename_i hempty
      rw [List.eq_nil_iff_forall_not_mem]
      intro entry hentry
      obtain ⟨_, _, hlast⟩ := mem_sparseIndex.mp hentry
      obtain ⟨row, hrow, _⟩ := List.mem_map.mp (List.mem_of_getLast? hlast)
      have hmem : row ∈ run.file.rows := (flatten_take_sublist (entry.1 + 1)).subset hrow
      rw [hempty] at hmem
      cases hmem
    · rename_i hrows
      obtain ⟨maximum, _, hlast⟩ := getLast?_sparseIndex hrows
      exact ⟨maximum, hlast⟩
  · obtain ⟨first, hfirst, hskip⟩ := rowGroupsAfter_skips hkeys
      (fun entries hentries => (Option.some.inj hentries).symm) (some cursor)
    refine ⟨first, hfirst, fun row hrow => ?_⟩
    obtain ⟨c, hc, hle⟩ := hskip row hrow
    obtain rfl := Option.some.inj hc
    exact hle

end Paging

/-! ## A run of one suppressed launch -/

theorem firstBlock_le : 1 ≤ UINT32_MAX := by decide

/-- A launch that a cooldown suppressed. -/
def suppressedRecord : RoundTripRecord where
  roundtripId := { hex := 1 }
  networkId := ⟨"solana:5eykt4UsFv8P8NJdTREpY1vzqKqZKvdpKuc147dw2N9d"⟩
  positionSchemaId := BLOCK32_TRANSACTION32_POSITION_SCHEMA_ID
  targetEventId := { hex := 2 }
  targetPosition := mainnetPosition 1 firstBlock_le
  targetTimeNs := 0
  developerId := .address "developer"
  creationUserId := .address "developer"
  assetId := ⟨"mint"⟩
  quoteAssetId := ⟨"SOL"⟩
  venueId := ⟨"curve"⟩
  cooldownConsumed := false
  cooldownUntilNs := none
  status := .cooldownSkipped
  buy := none
  sell := none
  acquiredTokenAmountAtomic := 0
  cashbackReceivableAtomic := 0
  realizedCashPnlAtomic := none
  mtmStatus := .notApplicable
  mtmLiquidationValueAtomic := none
  mtmCashPnlAtomic := none
  economicPnlAtomic := none
  accountProfileId := "profile"
  accountComponents := []
  executionMode := .exogenousReplay
  sellReferenceLiquidity := none
  sellLandingLiquidity := none
  mtmLiquidity := none
  settledVenueFundedAtomic := 0
  settledSyntheticFundedAtomic := 0
  sourceSchemaId := ROUNDTRIP_RESULT_SCHEMA_V4

theorem suppressedRecord_constructed : suppressedRecord.Constructed where
  network := by decide +kernel
  positionSchema := by decide
  developer := by rw [show suppressedRecord.developerId.value = "developer" from rfl]; rfl
  creationUser := by rw [show suppressedRecord.creationUserId.value = "developer" from rfl]; rfl
  asset := by decide
  quoteAsset := by decide
  venue := by decide
  legs := fun _ h => nomatch h
  components := fun _ h => nomatch h
  liquidity := fun _ h => nomatch h
  record := by decide

/-- A hash that tells no two streams apart. -/
abbrev blindHash : CanonicalStreamHash := ⟨fun _ _ => { hex := 0 }⟩

/-- A run that decided on these launches, in row groups of some sizes. -/
def writtenRun [CanonicalStreamHash] (records : List RoundTripRecord)
    (rowGroups : List (List RoundTripRow)) : StoredRun where
  manifest :=
    { summary := .sniping
      networkId := suppressedRecord.networkId
      positionSchemaId := suppressedRecord.positionSchemaId
      roundtrips := writtenDescriptor records }
  file := ⟨ROUNDTRIP_RESULT_SCHEMA_V4, rowGroups⟩
  balances := .ok ()

theorem suppressedRun_complete [CanonicalStreamHash] :
    Complete (writtenRun [suppressedRecord] [[roundtripRow suppressedRecord], []])
      [suppressedRecord] where
  positions := by
    intro h
    cases h
  balances := rfl
  table := by
    refine verified_of_written rfl rfl (fun record hrecord => ?_) (by simp) rfl rfl
    obtain rfl := List.mem_singleton.mp hrecord
    refine ⟨suppressedRecord_constructed, ?_, ?_, by decide, rfl, rfl⟩
    · exact ⟨fun _ h => (by cases h), fun _ h => (by cases h)⟩
    · exact ⟨rfl, rfl, fun _ h => (by cases h)⟩

/-- The one page of the run. -/
theorem roundtrip_paging_suppressed :
    let _ : CanonicalStreamHash := blindHash
    let run := writtenRun [suppressedRecord] [[roundtripRow suppressedRecord], []]
    readRoundtripPage run.manifest run.file (some (sparseIndex run.file)) none 1
      = .ok (pageOf [suppressedRecord] none 1) := by
  intro _ _
  let store : RunId → Option StoredRun :=
    fun _ => some (writtenRun [suppressedRecord] [[roundtripRow suppressedRecord], []])
  have hstored : store 0
      = some (writtenRun [suppressedRecord] [[roundtripRow suppressedRecord], []]) := rfl
  exact ((roundtrip_paging hstored suppressedRun_complete).2.2.1 none 1 (by decide) (by decide)).2

/-- An index does not always end at the last row group: the index of a table that is one row group
with no row is empty. -/
theorem index_of_empty_table :
    let _ : CanonicalStreamHash := blindHash
    ¬ ∀ (manifest : RunManifest) (file : RoundTripFile) (after : Option RoundTripCursor)
      (limit : Nat) (page : RoundTripPage RoundTripRecord) (index : PageIndex),
      scanRoundtrips manifest file after limit = .ok (page, index) →
        ∃ maximum, index.getLast? = some (file.rowGroups.length - 1, maximum) := by
  intro _ hall
  have hverified : Verified (ρ := RoundTripRecord) (writtenRun [] [[]]).manifest
      (writtenRun [] [[]]).file [] :=
    verified_of_written rfl rfl (by simp) (by simp) rfl rfl
  have hone : 1 ≤ MAX_ROUNDTRIP_PAGE_SIZE := by decide
  have hscan := (scanRoundtrips_eq_ok hone none).mpr ⟨[], hverified, rfl⟩
  obtain ⟨maximum, hlast⟩ := hall _ _ _ _ _ _ hscan
  cases hlast

end Results

end OnchainBacktest
