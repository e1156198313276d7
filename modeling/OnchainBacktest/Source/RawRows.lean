import Mathlib.Data.List.DropRight
import OnchainBacktest.Domain.Intents
import OnchainBacktest.Plugins.PumpPayload

/-!
# Raw rows of the Pump source

A row of a driver batch is a tuple of cells of any type, read by the names of its columns.  This
file has the cells, the readers the normalizer checks them with, and the readers the evidence
accumulator has of its own.  The two kinds of readers agree on every cell the normalizer accepts,
which is what `integer_of_uint`, `sourceText_of_identifier` and `datetimeNs_of_blockTime` say.

A reader stops with a coded fault or with a bare `ValueError`, `TypeError` or `OverflowError`,
which is `LiveFault.contract` here: whoever catches it knows its stream and picks the code.
-/

set_option autoImplicit false

namespace OnchainBacktest

namespace Source

open Checked

/-! ## Faults -/

inductive CapabilityStream
  | blockClock
  | tokenLaunch
  | pumpCurveTrade
  | pumpCurveLifecycle
  deriving DecidableEq, Repr

/-- Stable fail-closed reasons of the normalizer. -/
inductive PumpfunLiveNormalizationErrorCode
  | incompleteBlockRange
  | batchContractInvalid
  | rawSchemaMismatch
  | positionInvalid
  | identifierInvalid
  | launchContractInvalid
  | unsupportedProgramMode
  | tradeContractInvalid
  | lifecycleContractInvalid
  | feeProfileInvalid
  | streamNotFinished
  | streamAlreadyFinished
  deriving DecidableEq, Repr

/-- Stable failures at the composition boundary. -/
inductive PumpfunLiveSourceErrorCode
  | profileInvalid
  | requestIdentityMismatch
  | sourceReadFailed
  | normalizationFailed
  | incompleteBlockRange
  | transactionClockMismatch
  | bundledBuyContractMismatch
  | curveTransitionMismatch
  | lifecycleContractMismatch
  deriving DecidableEq, Repr

inductive LiveFault
  | normalization (code : PumpfunLiveNormalizationErrorCode)
  | contract
  | source (code : PumpfunLiveSourceErrorCode)
  deriving DecidableEq, Repr

/-! ## Cells -/

/-- A cell of a source row.  An instant is a `datetime`, given by the second and the microsecond it
stands at in UTC when it has a time zone. -/
inductive Cell
  | null
  | flag (value : Bool)
  | integer (value : Int)
  | text (value : String)
  | bytes (value : List UInt8)
  | instant (aware : Bool) (seconds : Int) (microsecond : Nat)
  | other
  deriving DecidableEq, Repr

/-- A row with the columns it is read by. -/
structure Row where
  columns : List String
  cells : List Cell
  deriving DecidableEq, Repr

def Row.cell (row : Row) (name : String) : Cell :=
  (row.cells[row.columns.idxOf name]?).getD .null

/-! ## Readers of the normalizer -/

def uintUpTo (maximum : Nat) : Cell → Except LiveFault Nat
  | .integer n => if 0 ≤ n ∧ n ≤ maximum then .ok n.toNat else .error .contract
  | _ => .error .contract

def uint (value : Cell) : Except LiveFault Nat := uintUpTo MAX_U64 value

def flag (value : Cell) : Except LiveFault Bool := do
  let integer ← uintUpTo 1 value
  .ok (integer == 1)

def transactionIndex (value : Cell) : Except LiveFault Nat := uintUpTo (UINT32_MAX - 1) value

def instructionIndex (value : Cell) : Except LiveFault Nat := uintUpTo ((UINT32_MAX - 2) / 2) value

def derivedEventIndex (rawInstructionIndex offset : Nat) : Except LiveFault Nat := do
  refuseIf (UINT32_MAX < rawInstructionIndex * 2 + offset) .contract
  .ok (rawInstructionIndex * 2 + offset)

def rawText : Cell → Except LiveFault String
  | .bytes value =>
    if value.all fun b => decide (b < 128) then
      .ok (String.ofList (value.map fun b => Char.ofNat b.toNat))
    else .error .contract
  | .text value => .ok value
  | _ => .error .contract

def NUL : Char := Char.ofNat 0

/-- `text.rstrip("\x00")`. -/
def stripNul (text : String) : String := String.ofList (text.toList.rdropWhile (· == NUL))

def stripFixedNul (value : Cell) : Except LiveFault String := do
  let text ← rawText value
  let stripped := stripNul text
  refuseIf (stripped.toList = [] ∨ NUL ∈ stripped.toList) .contract
  .ok stripped

def BASE58_ALPHABET : List Char :=
  "123456789ABCDEFGHJKLMNPQRSTUVWXYZabcdefghijkmnopqrstuvwxyz".toList

/-- The number of bytes a base58 text decodes to: one for each leading `1`, and those of the number
it spells. -/
def base58Width (text : List Char) : Nat :=
  let number := text.foldl (fun n c => n * 58 + BASE58_ALPHABET.idxOf c) 0
  (text.takeWhile (· == BASE58_ALPHABET.headI)).length +
    (if number = 0 then 0 else (Nat.log2 number + 1 + 7) / 8)

/-- A text of the alphabet has no whitespace to strip, so the source's own check of that is not
repeated. -/
def base58Identifier (value : Cell) (decodedBytes : Nat) : Except LiveFault String := do
  let text ← stripFixedNul value
  refuseIf (¬ text.toList.all BASE58_ALPHABET.contains = true) .contract
  refuseIf (base58Width text.toList ≠ decodedBytes) .contract
  .ok text

/-- A reader whose every fault becomes one code. -/
def coded {α : Type} (code : PumpfunLiveNormalizationErrorCode) (x : Except LiveFault α) :
    Except LiveFault α :=
  x.mapError fun _ => .normalization code

def publicKey (value : Cell) : Except LiveFault String :=
  coded .identifierInvalid (base58Identifier value 32)

def signature (value : Cell) : Except LiveFault String :=
  coded .identifierInvalid (base58Identifier value 64)

def closedText (value : Cell) : Except LiveFault String := do
  let text ← stripFixedNul value
  refuseIf (isTrimmedList text.toList = false ∨
    (text.toList.any fun c => decide (c.toNat < 32)) = true) .contract
  .ok text

/-- The second an integer or a `datetime` with a time zone stands for. -/
def epochSeconds : Cell → Except LiveFault Int
  | .integer n => .ok n
  | .instant true seconds microsecond => do
    refuseIf (microsecond ≠ 0) .contract
    .ok seconds
  | _ => .error .contract

/-- Seconds and nanoseconds of a block. -/
def blockTime (value : Cell) : Except LiveFault (Nat × Nat) := do
  let seconds ← epochSeconds value
  refuseIf (¬ (0 ≤ seconds ∧ seconds ≤ MAX_U64)) .contract
  .ok (seconds.toNat, seconds.toNat * 1000000000)

def PUMPFUN_LEGACY_TOKEN_PROGRAM : String := "TokenkegQfeZyiNwAJbNbGKPFXCWuBvf9Ss623VQ5DA"

def PUMPFUN_TOKEN_2022_PROGRAM : String := "TokenzQdBNbLqP5VEhdkAS6EPFLC1PHnBqCXEpPxuEb"

def mode (tokenProgramValue cashbackValue : Cell) : Except LiveFault PumpMode := do
  let tokenProgram ← publicKey tokenProgramValue
  let cashback ← flag cashbackValue
  if tokenProgram = PUMPFUN_LEGACY_TOKEN_PROGRAM ∧ cashback = false then .ok .normal
  else if tokenProgram = PUMPFUN_TOKEN_2022_PROGRAM then
    .ok (if cashback then .cashback else .token2022)
  else .error (.normalization .unsupportedProgramMode)

/-! ## Readers of the evidence accumulator -/

def integer : Cell → Except LiveFault Nat
  | .integer n => if 0 ≤ n then .ok n.toNat else .error .contract
  | _ => .error .contract

def sourceText (value : Cell) : Except LiveFault String := do
  let text ← rawText value
  refuseIf (text.toList = []) .contract
  .ok (stripNul text)

def datetimeNs (value : Cell) : Except LiveFault Nat := do
  let seconds ← epochSeconds value
  refuseIf (seconds < 0) .contract
  .ok (seconds.toNat * 1000000000)

/-! ## What the readers agree on -/

variable {value : Cell}

theorem uintUpTo_eq_ok {maximum n : Nat} :
    uintUpTo maximum value = .ok n ↔ value = .integer n ∧ n ≤ maximum := by
  constructor
  · intro h
    rw [uintUpTo.eq_def] at h
    split at h
    · rename_i i
      split at h
      · rename_i hi
        obtain rfl := Except.ok.inj h
        exact ⟨congrArg Cell.integer (Int.toNat_of_nonneg hi.1).symm, by omega⟩
      · cases h
    · cases h
  · rintro ⟨rfl, hn⟩
    exact (if_pos ⟨Int.natCast_nonneg n, by exact_mod_cast hn⟩).trans (by rw [Int.toNat_natCast])

theorem integer_eq_ok {n : Nat} : integer value = .ok n ↔ value = .integer n := by
  constructor
  · intro h
    rw [integer.eq_def] at h
    split at h
    · split at h
      · rename_i i hi
        obtain rfl := Except.ok.inj h
        exact congrArg Cell.integer (Int.toNat_of_nonneg hi).symm
      · cases h
    · cases h
  · rintro rfl
    rw [integer, if_pos (Int.natCast_nonneg n), Int.toNat_natCast]

theorem integer_of_uint {maximum n : Nat} (h : uintUpTo maximum value = .ok n) :
    integer value = .ok n := integer_eq_ok.mpr (uintUpTo_eq_ok.mp h).1

theorem flag_eq_ok {b : Bool} : flag value = .ok b ↔ value = .integer b.toNat := by
  constructor
  · intro h
    obtain ⟨n, hn, hb⟩ := bind_eq_ok.mp h
    obtain ⟨rfl, hle⟩ := uintUpTo_eq_ok.mp hn
    obtain rfl := Except.ok.inj hb
    obtain rfl | rfl : n = 0 ∨ n = 1 := by omega
    · rfl
    · rfl
  · rintro rfl
    cases b <;> rfl

theorem coded_eq_ok {α : Type} {code : PumpfunLiveNormalizationErrorCode} {x : Except LiveFault α}
    {a : α} : coded code x = .ok a ↔ x = .ok a := by
  cases x <;> simp [coded, Except.mapError]

theorem stripFixedNul_eq_ok {text : String} (h : stripFixedNul value = .ok text) :
    ∃ raw, rawText value = .ok raw ∧ stripNul raw = text ∧ raw.toList ≠ [] := by
  obtain ⟨raw, hraw, h⟩ := bind_eq_ok.mp h
  obtain ⟨hfull, h⟩ := check_bind_eq_ok.mp h
  refine ⟨raw, hraw, Except.ok.inj h, fun hempty => refuseIf_eq_ok.mp hfull (.inl ?_)⟩
  rw [stripNul, hempty]
  rfl

/-- An accepted text is the one the accumulator reads. -/
theorem sourceText_of_stripped {text : String} (h : stripFixedNul value = .ok text) :
    sourceText value = .ok text := by
  obtain ⟨raw, hraw, rfl, hne⟩ := stripFixedNul_eq_ok h
  rw [sourceText, hraw, ok_bind, refuseIf_of_not hne, ok_bind]

theorem sourceText_of_base58 {text : String} {width : Nat}
    (h : base58Identifier value width = .ok text) : sourceText value = .ok text := by
  obtain ⟨stripped, hstripped, h⟩ := bind_eq_ok.mp h
  obtain ⟨-, h⟩ := check_bind_eq_ok.mp h
  obtain ⟨-, h⟩ := check_bind_eq_ok.mp h
  exact Except.ok.inj h ▸ sourceText_of_stripped hstripped

theorem sourceText_of_publicKey {text : String} (h : publicKey value = .ok text) :
    sourceText value = .ok text := sourceText_of_base58 (coded_eq_ok.mp h)

theorem sourceText_of_signature {text : String} (h : signature value = .ok text) :
    sourceText value = .ok text := sourceText_of_base58 (coded_eq_ok.mp h)

theorem sourceText_of_closedText {text : String} (h : closedText value = .ok text) :
    sourceText value = .ok text := by
  obtain ⟨stripped, hstripped, h⟩ := bind_eq_ok.mp h
  obtain ⟨-, h⟩ := check_bind_eq_ok.mp h
  exact Except.ok.inj h ▸ sourceText_of_stripped hstripped

theorem blockTime_eq_ok {time : Nat × Nat} (h : blockTime value = .ok time) :
    time.2 = time.1 * 1000000000 ∧ datetimeNs value = .ok time.2 := by
  obtain ⟨seconds, hseconds, h⟩ := bind_eq_ok.mp h
  obtain ⟨hrange, h⟩ := check_bind_eq_ok.mp h
  obtain rfl := Except.ok.inj h
  have hnonneg : 0 ≤ seconds := (not_not.mp (refuseIf_eq_ok.mp hrange)).1
  exact ⟨rfl, by rw [datetimeNs, hseconds, ok_bind, refuseIf_of_not (by omega), ok_bind]⟩

theorem derivedEventIndex_eq_ok {raw offset index : Nat}
    (h : derivedEventIndex raw offset = .ok index) : index = raw * 2 + offset := by
  obtain ⟨-, h⟩ := check_bind_eq_ok.mp h
  exact (Except.ok.inj h).symm

/-- Cells that read as one program and one flag read as one mode. -/
theorem mode_unique {value value' cashback cashback' : Cell} {read read' : PumpMode} {text : String}
    {n : Nat} (h : mode value cashback = .ok read) (h' : mode value' cashback' = .ok read')
    (htext : sourceText value = .ok text) (htext' : sourceText value' = .ok text)
    (hn : integer cashback = .ok n) (hn' : integer cashback' = .ok n) : read = read' := by
  obtain ⟨program, hprogram, h⟩ := bind_eq_ok.mp h
  obtain ⟨program', hprogram', h'⟩ := bind_eq_ok.mp h'
  obtain rfl := Except.ok.inj (htext.symm.trans (sourceText_of_publicKey hprogram))
  obtain rfl := Except.ok.inj (htext'.symm.trans (sourceText_of_publicKey hprogram'))
  obtain rfl : cashback = cashback' := (integer_eq_ok.mp hn).trans (integer_eq_ok.mp hn').symm
  obtain ⟨back, hback, h⟩ := bind_eq_ok.mp h
  obtain ⟨back', hback', h'⟩ := bind_eq_ok.mp h'
  obtain rfl := Except.ok.inj (hback.symm.trans hback')
  exact Except.ok.inj (h.symm.trans h')

end Source

end OnchainBacktest
