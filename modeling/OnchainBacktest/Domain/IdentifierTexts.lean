import Mathlib.Data.List.DropRight
import OnchainBacktest.Domain.Faults
import OnchainBacktest.Domain.Identifiers

/-!
# The texts of identifiers

An identifier is built from a text, and its constructor refuses a text it has no use for.  The
types of `Domain.Identifiers` hold any text; the constructors here are what a reader of stored
documents calls, with the checks of the source.

A digest is the one identifier whose text is not its value: `ContentDigest.make` reads the
hexadecimal digits, and reads back what `ContentDigest.spelling` writes (`make_spelling`).
-/

set_option autoImplicit false

namespace OnchainBacktest

open Checked

/-! ## Any identifier -/

/-- The check every identifier makes. -/
def checkIdentifier (value : String) : Except Fault Unit := do
  refuseIf (nonemptyTrimmed value = false)
    (.value "identifier must be non-empty and have no outer whitespace")
  refuseIf (256 < value.length) (.value "identifier is longer than 256 characters")
  refuseIf (value.toList.any (fun c => c.toNat < 32) = true)
    (.value "identifier must not contain control characters")

def AssetId.make (value : String) : Except Fault AssetId := do
  checkIdentifier value
  .ok ⟨value⟩

def VenueId.make (value : String) : Except Fault VenueId := do
  checkIdentifier value
  .ok ⟨value⟩

/-- Any text is an account: the formats of the ledger are texts too, read as an address. -/
def AccountId.make (value : String) : Except Fault AccountId := do
  checkIdentifier value
  .ok (.address value)

/-! ## Networks and position schemas -/

def isLower (c : Char) : Bool := 'a' ≤ c && c ≤ 'z'

/-- `[a-z0-9-]`. -/
def isKebab (c : Char) : Bool := isLower c || c.isDigit || c == '-'

/-- `[a-z][a-z0-9-]*`. -/
def isKebabName (cs : List Char) : Bool :=
  match cs with
  | [] => false
  | c :: rest => isLower c && rest.all isKebab

/-- The text a `casefold` comparison with an ASCII name is made on. -/
def casefold (cs : List Char) : List Char :=
  cs.flatMap fun c =>
    if c == 'ſ' then ['s'] else if c == 'ﬅ' || c == 'ﬆ' then ['s', 't'] else [c.toLower]

def MUTABLE_NETWORK_ALIASES : List String :=
  ["devnet", "mainnet", "mainnet-beta", "production", "testnet"]

def BASE58_ALPHABET : List Char := "123456789ABCDEFGHJKLMNPQRSTUVWXYZabcdefghijkmnopqrstuvwxyz".toList

/-- A genesis hash is 32 bytes in base 58, each leading `1` a zero byte. -/
def validateSolanaGenesisReference (value : List Char) : Except Fault Unit := do
  refuseIf (¬ (32 ≤ value.length ∧ value.length ≤ 44) ∨
      value.all (fun c => BASE58_ALPHABET.contains c) = false)
    (.value "Solana network reference must be a complete base58 genesis hash")
  let decoded := value.foldl (fun n c => n * 58 + BASE58_ALPHABET.idxOf c) 0
  let leadingZeroBytes := (value.takeWhile (· == '1')).length
  refuseIf (leadingZeroBytes + (decoded.size + 7) / 8 ≠ 32)
    (.value "Solana network reference must encode exactly 32 genesis bytes")

/-- The check of a network, `family:immutable-chain-reference`. -/
def checkNetwork (value : String) : Except Fault Unit := do
  checkIdentifier value
  let family := value.toList.takeWhile (· != ':')
  let chainReference := value.toList.drop (family.length + 1)
  refuseIf (value.toList.contains ':' = false ∨ family = [] ∨ chainReference = [])
    (.value "network ID must use family:immutable-chain-reference")
  refuseIf (isKebabName family = false ∨ 32 < family.length)
    (.value "network family must be lowercase kebab-case")
  refuseIf (casefold chainReference ∈ MUTABLE_NETWORK_ALIASES.map String.toList)
    (.value "network ID must not use a mutable network alias")
  refuseIf (chainReference.any isSpace = true)
    (.value "network chain reference must not contain whitespace")
  refuseIf (chainReference.any ("/\\?#@".toList.contains ·) = true)
    (.value "network chain reference must not contain endpoint or credentials")
  if family = "solana".toList then validateSolanaGenesisReference chainReference else .ok ()

def NetworkId.make (value : String) : Except Fault NetworkId := do
  checkNetwork value
  .ok ⟨value⟩

/-- `[a-z][a-z0-9-]*-v[1-9][0-9]*`: the last digits are the version. -/
def isVersionedName (cs : List Char) : Bool :=
  let version := cs.rtakeWhile Char.isDigit
  let name := cs.rdropWhile Char.isDigit
  version.head?.any (· != '0') && name.drop (name.length - 2) == ['-', 'v'] &&
    isKebabName (name.take (name.length - 2))

/-- The check of a position schema. -/
def checkPositionSchema (value : String) : Except Fault Unit := do
  checkIdentifier value
  refuseIf (isVersionedName value.toList = false)
    (.value "position schema ID must be versioned lowercase kebab-case")

def PositionSchemaId.make (value : String) : Except Fault PositionSchemaId := do
  checkPositionSchema value
  .ok ⟨value⟩

/-! ## Digests -/

/-- The value of a lowercase hexadecimal digit. -/
def hexDigit (c : Char) : Option Nat :=
  if c.isDigit then some (c.toNat - '0'.toNat)
  else if 'a' ≤ c ∧ c ≤ 'f' then some (c.toNat - 'a'.toNat + 10)
  else none

/-- The number hexadecimal digits spell. -/
def readHex (cs : List Char) : Option Nat :=
  cs.foldlM (fun n c => (hexDigit c).map (16 * n + ·)) 0

def DIGEST_PREFIX : List Char := "sha256:".toList

/-- A digest from its text: 64 digits, after an optional display prefix. -/
def ContentDigest.make (value : String) : Except Fault ContentDigest := do
  checkIdentifier value
  let prefixed := DIGEST_PREFIX.isPrefixOf value.toList
  let digits := if prefixed then value.toList.drop DIGEST_PREFIX.length else value.toList
  match readHex digits with
  | none => .error (.value "content digest must be a lowercase SHA-256 digest")
  | some hex => do
    refuseIf (digits.length ≠ 64) (.value "content digest must be a lowercase SHA-256 digest")
    .ok { hex := Fin.ofNat _ hex, prefixed := prefixed }

/-- The digest without the display prefix. -/
def ContentDigest.bare (d : ContentDigest) : ContentDigest := { d with prefixed := false }

/-! ### Spelling a digest -/

theorem hexDigit_digitChar : ∀ n < 16, hexDigit n.digitChar = some n := by decide

/-- Reading digits from the number before them. -/
theorem foldlM_toDigits (n m : Nat) :
    (Nat.toDigits 16 n).foldlM (fun n c => (hexDigit c).map (16 * n + ·)) m
      = some (16 ^ (Nat.toDigits 16 n).length * m + n) := by
  induction n using Nat.strong_induction_on generalizing m with
  | _ n ih =>
    by_cases h : n < 16
    · rw [Nat.toDigits_of_lt_base h, List.foldlM_cons, hexDigit_digitChar n h]
      simp
    · have hlt : n / 16 < n := Nat.div_lt_self (by omega) (by omega)
      rw [Nat.toDigits_of_base_le (by decide) (by omega), List.foldlM_append, ih _ hlt]
      simp only [Option.bind_eq_bind, Option.bind_some, List.foldlM_cons, List.foldlM_nil,
        hexDigit_digitChar _ (Nat.mod_lt n (by decide)), Option.map_some, List.length_append,
        List.length_cons, List.length_nil, Option.pure_def, Option.some.injEq]
      rw [Nat.pow_succ]
      have := Nat.div_add_mod n 16
      ring_nf at this ⊢
      omega

theorem readHex_toDigits (n : Nat) : readHex (Nat.toDigits 16 n) = some n := by
  rw [readHex, foldlM_toDigits, Nat.mul_zero, Nat.zero_add]

/-- Zeros in front change nothing. -/
theorem readHex_zeros (k : Nat) (cs : List Char) :
    readHex (List.replicate k '0' ++ cs) = readHex cs := by
  induction k with
  | zero => rfl
  | succ k ih =>
    rw [List.replicate_succ, List.cons_append]
    exact ih

/-- The characters of a spelling are hexadecimal digits. -/
theorem isSome_hexDigit_of_mem_toDigits {n : Nat} {c : Char} (h : c ∈ Nat.toDigits 16 n) :
    (hexDigit c).isSome := by
  induction n using Nat.strong_induction_on with
  | _ n ih =>
    by_cases hn : n < 16
    · rw [Nat.toDigits_of_lt_base hn, List.mem_singleton] at h
      rw [h, hexDigit_digitChar n hn]
      rfl
    · rw [Nat.toDigits_of_base_le (by decide) (by omega), List.mem_append,
        List.mem_singleton] at h
      rcases h with h | rfl
      · exact ih _ (Nat.div_lt_self (by omega) (by omega)) h
      · rw [hexDigit_digitChar _ (Nat.mod_lt n (by decide))]
        rfl

/-- A hexadecimal digit stands strictly above the controls and the blanks of ASCII. -/
theorem toNat_of_isSome_hexDigit {c : Char} (h : (hexDigit c).isSome) :
    (48 ≤ c.toNat ∧ c.toNat ≤ 57) ∨ (97 ≤ c.toNat ∧ c.toNat ≤ 102) := by
  rw [hexDigit] at h
  split at h
  · rename_i hd
    rw [Char.isDigit, Bool.and_eq_true, decide_eq_true_iff, decide_eq_true_iff] at hd
    exact Or.inl ⟨UInt32.le_iff_toNat_le.mp hd.1, UInt32.le_iff_toNat_le.mp hd.2⟩
  · split at h
    · rename_i hc
      exact Or.inr ⟨UInt32.le_iff_toNat_le.mp hc.1, UInt32.le_iff_toNat_le.mp hc.2⟩
    · simp at h

namespace ContentDigest

variable (d : ContentDigest)

theorem spelling_toList : d.spelling.toList
    = List.replicate (64 - (Nat.toDigits 16 d.hex.val).length) '0'
      ++ Nat.toDigits 16 d.hex.val := by
  rw [spelling, String.toList_ofList]

theorem length_spelling : d.spelling.toList.length = 64 := by
  have hle : (Nat.toDigits 16 d.hex.val).length ≤ 64 := by
    rw [Nat.length_toDigits_le_iff (by decide) (by decide)]
    exact lt_of_lt_of_eq d.hex.isLt (by norm_num)
  rw [spelling_toList, List.length_append, List.length_replicate]
  omega

theorem hexDigit_spelling : ∀ c ∈ d.spelling.toList, (hexDigit c).isSome := by
  intro c hc
  rw [spelling_toList, List.mem_append] at hc
  rcases hc with hc | hc
  · rw [List.eq_of_mem_replicate hc]
    rfl
  · exact isSome_hexDigit_of_mem_toDigits hc

/-- A text of hexadecimal digits is an identifier. -/
theorem checkIdentifier_spelling : checkIdentifier d.spelling = .ok () := by
  have hlen := d.length_spelling
  have hsolid : ∀ c ∈ d.spelling.toList, isSpace c = false := by
    intro c hc
    have := toNat_of_isSome_hexDigit (d.hexDigit_spelling c hc)
    simp only [isSpace, Bool.or_eq_false_iff, Bool.and_eq_false_iff, decide_eq_false_iff_not,
      beq_eq_false_iff_ne]
    omega
  have hne : d.spelling.toList ≠ [] := by
    intro h
    rw [h] at hlen
    cases hlen
  have htrim : nonemptyTrimmed d.spelling = true := by
    rw [nonemptyTrimmed, isTrimmedList, List.head?_eq_some_head hne,
      List.getLast?_eq_some_getLast hne]
    simp only [Option.all_some, hsolid _ (List.head_mem hne), hsolid _ (List.getLast_mem hne)]
    simpa using hne
  have hcontrol : ¬ d.spelling.toList.any (fun c => c.toNat < 32) = true := by
    intro h
    obtain ⟨c, hc, hlt⟩ := List.any_eq_true.mp h
    have := toNat_of_isSome_hexDigit (d.hexDigit_spelling c hc)
    rw [decide_eq_true_iff] at hlt
    omega
  rw [checkIdentifier, refuseIf_of_not (by simp [htrim]), ok_bind,
    refuseIf_of_not (by rw [← String.length_toList, hlen]; decide), ok_bind,
    refuseIf_of_not hcontrol]

/-- The spelling of a digest has no display prefix. -/
theorem not_prefix_spelling : DIGEST_PREFIX.isPrefixOf d.spelling.toList = false := by
  cases hs : d.spelling.toList with
  | nil => rfl
  | cons c rest =>
    have := toNat_of_isSome_hexDigit (d.hexDigit_spelling c (by rw [hs]; exact List.mem_cons_self))
    have hc : ('s' == c) = false := by
      rw [beq_eq_false_iff_ne]
      rintro rfl
      exact absurd this (by decide)
    rw [show DIGEST_PREFIX = 's' :: "ha256:".toList from rfl, List.isPrefixOf_cons_cons, hc,
      Bool.false_and]

/-- **Reading the spelling of a digest gives the digest, without the prefix.** -/
theorem make_spelling : make d.spelling = .ok d.bare := by
  have hread : readHex d.spelling.toList = some d.hex.val := by
    rw [spelling_toList, readHex_zeros, readHex_toDigits]
  rw [make, checkIdentifier_spelling, ok_bind, not_prefix_spelling]
  simp only [Bool.false_eq_true, if_false, hread]
  rw [refuseIf_of_not (not_not.mpr d.length_spelling), ok_bind, bare]
  congr 2
  exact Fin.ofNat_val_eq_self d.hex

end ContentDigest

end OnchainBacktest
