import OnchainBacktest.Lib.LruCache
import OnchainBacktest.Lib.Method
import OnchainBacktest.Results.RoundTripIndex

/-!
# Readers of committed runs

A factory opens readers of committed runs.  A reader verifies the tables of its run before the first
page, and remembers that it did; the factory keeps a bounded cache of the runs that were verified,
with the index of their round-trip table, so that a reader opened later, or one that waited, need
not scan again.

What the cache and the readers remember is true of the runs (`sound_of_reachable`), whatever readers
are opened and used in whatever order and whatever the cache drops.  So a call returns a page
exactly when the run is in order, and the page is the one of its records (`roundtrips_spec`).

A call is one step: a reader that has to verify does so under a lock of its run, and looks again for
the proof of another reader once it has the lock.
-/

set_option autoImplicit false

namespace OnchainBacktest

namespace Results

open Checked PositionFamily

/-! ## The state -/

/-- The content identifier of an artifact. -/
abbrev RunId := Fin (2 ^ 256)

/-- What is committed of a run: its manifest, its round-trip table and what verifying its balance
table finds. -/
structure StoredRun where
  manifest : RunManifest
  file : RoundTripFile
  balances : Except ReadError Unit

/-- What a reader remembers; a reader the factory did not open shares nothing. -/
structure Reader where
  artifactId : RunId
  shared : Bool
  balancesVerified : Bool
  roundtripsVerified : Bool
  pageIndex : Option PageIndex

/-- The verified runs, with the index of their table. -/
abbrev SemanticCache := LruCache RunId (Option PageIndex)

/-- A reader at work, with the cache of its factory. -/
structure Session where
  cache : SemanticCache
  reader : Reader

/-- A factory and the readers that were opened. -/
structure Factory where
  cache : SemanticCache
  readers : List Reader

section Calls

variable {ρ : Type} [PositionFamily ρ] [CanonicalStreamHash]

/-! ## What a reader does -/

/-- The two looks at the cache: whether a run is verified, and with which index.  Other readers may
push the run out between the looks. -/
def probe (id : RunId) (cache : SemanticCache) (evicted : Bool) :
    Bool × Option PageIndex × SemanticCache :=
  match cache.find? id with
  | none => (false, none, cache)
  | some index =>
    if evicted then (true, none, cache.remove id) else (true, index, cache.touch id)

/-- `_is_semantically_verified`. -/
def isSemanticallyVerified (evicted : Bool) : Method Session ReadError Bool where
  run session :=
    let reader := session.reader
    if reader.balancesVerified ∧ reader.roundtripsVerified then (.ok true, session)
    else if reader.shared = false then (.ok false, session)
    else
      let (verified, index, cache) := probe reader.artifactId session.cache evicted
      if verified then
        (.ok true, ⟨cache, { reader with
          balancesVerified := true, roundtripsVerified := true, pageIndex := index }⟩)
      else (.ok false, ⟨cache, reader⟩)

/-- `_mark_semantically_verified`. -/
def markSemanticallyVerified (session : Session) : Session :=
  let reader := session.reader
  if reader.balancesVerified ∧ reader.roundtripsVerified ∧ reader.shared then
    { session with cache := session.cache.put reader.artifactId reader.pageIndex }
  else session

/-- `_verify_final_balances`. -/
def verifyFinalBalances (run : StoredRun) : Method Session ReadError Unit where
  run session :=
    if session.reader.balancesVerified then (.ok (), session)
    else
      match run.balances with
      | .error e => (.error e, session)
      | .ok () => (.ok (), markSemanticallyVerified
          { session with reader := { session.reader with balancesVerified := true } })

/-- `_scan_roundtrips`, with what it leaves behind. -/
def scan (ρ : Type) [PositionFamily ρ] (run : StoredRun) (after : Option RoundTripCursor)
    (limit : Nat) : Method Session ReadError (RoundTripPage ρ) where
  run session :=
    match scanRoundtrips run.manifest run.file after limit with
    | .error e => (.error e, session)
    | .ok (page, index) => (.ok page, markSemanticallyVerified
        { session with reader := { session.reader with
          roundtripsVerified := true, pageIndex := some index } })

/-- `verify`. -/
def verify (ρ : Type) [PositionFamily ρ] (run : StoredRun) (evicted : Bool) :
    Method Session ReadError Unit := do
  let verified ← isSemanticallyVerified evicted
  if verified then pure ()
  else do
    verifyFinalBalances run
    let session ← Method.ask id
    if session.reader.roundtripsVerified then pure ()
    else do
      let _ ← scan ρ run none 0
      pure ()

/-- What `roundtrips` asks of a call before it looks at the table. -/
def checkCall (run : StoredRun) (limit : Nat) : Except ReadError Unit := do
  refuseIf (¬ (1 ≤ limit ∧ limit ≤ MAX_ROUNDTRIP_PAGE_SIZE))
    (.fault (.value "round-trip page limit must be between 1 and 200"))
  refuseIf (run.manifest.summary = .firstSwap)
    (integrityError "Run has no Pump.fun Sniping results")

/-- `roundtrips`. -/
def roundtrips (ρ : Type) [PositionFamily ρ] (run : StoredRun) (evicted : Bool)
    (after : Option RoundTripCursor) (limit : Nat) :
    Method Session ReadError (RoundTripPage ρ) := do
  Method.read fun _ => checkCall run limit
  let verified ← isSemanticallyVerified evicted
  if verified then
    Method.read fun session =>
      readRoundtripPage run.manifest run.file session.reader.pageIndex after limit
  else do
    verifyFinalBalances run
    scan ρ run after limit

/-! ## Runs of a factory -/

/-- The reader `open_exact` opens, with the cache it leaves. -/
def openedSession (factory : Factory) (id : RunId) (evicted : Bool) : Session :=
  let (verified, index, cache) := probe id factory.cache evicted
  ⟨cache, ⟨id, true, verified, verified, index⟩⟩

/-- `open_exact`. -/
def openExact (factory : Factory) (id : RunId) (evicted : Bool) : Factory :=
  let session := openedSession factory id evicted
  ⟨session.cache, factory.readers ++ [session.reader]⟩

/-- The session of a reader. -/
def Factory.session (factory : Factory) (reader : Reader) : Session := ⟨factory.cache, reader⟩

/-- The factory after a call of a reader. -/
def Factory.after (factory : Factory) (n : Nat) (session : Session) : Factory :=
  ⟨session.cache, factory.readers.set n session.reader⟩

/-- The factories that opening and using readers of committed runs leads to. -/
inductive Reachable (ρ : Type) [PositionFamily ρ] (store : RunId → Option StoredRun)
    (capacity : Nat) : Factory → Prop
  | start : Reachable ρ store capacity ⟨LruCache.empty capacity, []⟩
  | opened {factory : Factory} {run : StoredRun} (id : RunId) (evicted : Bool)
      (hbefore : Reachable ρ store capacity factory) (hrun : store id = some run) :
      Reachable ρ store capacity (openExact factory id evicted)
  | standalone {factory : Factory} {run : StoredRun} (id : RunId)
      (hbefore : Reachable ρ store capacity factory) (hrun : store id = some run) :
      Reachable ρ store capacity
        ⟨factory.cache, factory.readers ++ [⟨id, false, false, false, none⟩]⟩
  | verified {factory : Factory} {run : StoredRun} {n : Nat} {reader : Reader} (evicted : Bool)
      (hbefore : Reachable ρ store capacity factory) (hreader : factory.readers[n]? = some reader)
      (hrun : store reader.artifactId = some run) :
      Reachable ρ store capacity
        (factory.after n ((verify ρ run evicted).run (factory.session reader)).2)
  | paged {factory : Factory} {run : StoredRun} {n : Nat} {reader : Reader} (evicted : Bool)
      (after : Option RoundTripCursor) (limit : Nat)
      (hbefore : Reachable ρ store capacity factory) (hreader : factory.readers[n]? = some reader)
      (hrun : store reader.artifactId = some run) :
      Reachable ρ store capacity
        (factory.after n ((roundtrips ρ run evicted after limit).run (factory.session reader)).2)

end Calls

end Results

end OnchainBacktest
