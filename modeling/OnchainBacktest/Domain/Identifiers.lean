import Mathlib.Data.List.Basic
import Mathlib.Data.Fin.Basic
import Mathlib.Tactic
import OnchainBacktest.Domain.Chain

/-!
# Identifiers and texts

Opaque identifiers are texts, kept apart by their type.  A content digest is a SHA-256 value; its
lowercase hexadecimal spelling has a fixed length, so digests sort as the numbers they spell.

The hash itself is a parameter, `DomainDigest`: what a document hashes to is never looked into, so
nothing here assumes anything about it.

A ledger account identifier is one of ten formats, each filled with other identifiers.  `AccountId`
has one constructor for each and `AccountId.value` spells it.
-/

set_option autoImplicit false

namespace OnchainBacktest

/-! ## Texts -/

/-- The characters `str.strip` removes. -/
def isSpace (c : Char) : Bool :=
  (9 ≤ c.toNat && c.toNat ≤ 13) || (28 ≤ c.toNat && c.toNat ≤ 32) || c.toNat == 133 ||
    c.toNat == 160 || c.toNat == 5760 || (8192 ≤ c.toNat && c.toNat ≤ 8202) ||
    c.toNat == 8232 || c.toNat == 8233 || c.toNat == 8239 || c.toNat == 8287 || c.toNat == 12288

/-- No outer whitespace. -/
def isTrimmedList (cs : List Char) : Bool :=
  (cs.head?.all fun c => !isSpace c) && (cs.getLast?.all fun c => !isSpace c)

/-- `value and value == value.strip()`. -/
def nonemptyTrimmed (value : String) : Bool :=
  !value.toList.isEmpty && isTrimmedList value.toList

/-- `nonemptyTrimmed` and without a NUL. -/
def stableName (value : String) : Bool :=
  nonemptyTrimmed value && value.toList.all fun c => c.toNat != 0

/-- Non-empty, trimmed, and alphanumeric once the underscores are taken out. -/
def stableToken (value : String) : Bool :=
  nonemptyTrimmed value && !(value.toList.filter (· != '_')).isEmpty &&
    (value.toList.filter (· != '_')).all Char.isAlphanum

/-! ## Opaque identifiers -/

structure AssetId where
  value : String
  deriving DecidableEq, Repr

structure VenueId where
  value : String
  deriving DecidableEq, Repr

structure PoolId where
  value : String
  deriving DecidableEq, Repr

structure ProtocolPayloadSchemaId where
  value : String
  deriving DecidableEq, Repr

/-- There is a digest. -/
instance digests_neZero : NeZero (2 ^ 256) := ⟨by decide⟩

/-- A SHA-256 digest, as the number its hexadecimal spelling stands for, and whether its text has
the `sha256:` display prefix. -/
structure ContentDigest where
  hex : Fin (2 ^ 256)
  prefixed : Bool := false
  deriving DecidableEq

/-- The spelling of a digest, without the prefix. -/
def ContentDigest.spelling (d : ContentDigest) : String :=
  let digits := Nat.toDigits 16 d.hex.val
  String.ofList (List.replicate (64 - digits.length) '0' ++ digits)

/-- A value of a hashed document. -/
inductive DigestField
  | text (value : String)
  | integer (value : Int)
  | null
  deriving DecidableEq

/-- `domain_digest`: the SHA-256 digest of a domain and a document. -/
class DomainDigest where
  domainDigest : String → List (String × DigestField) → ContentDigest

export DomainDigest (domainDigest)

/-! ## Accounts -/

/-- The kinds of ledger accounts. -/
inductive AccountKind
  | portfolioAvailable
  | portfolioReserved
  | portfolioLocked
  | receivable
  | venue
  | protocolFee
  | creatorFee
  | networkFee
  | external
  deriving DecidableEq, Repr

def AccountKind.value : AccountKind → String
  | portfolioAvailable => "PORTFOLIO_AVAILABLE"
  | portfolioReserved => "PORTFOLIO_RESERVED"
  | portfolioLocked => "PORTFOLIO_LOCKED"
  | receivable => "RECEIVABLE"
  | venue => "VENUE"
  | protocolFee => "PROTOCOL_FEE"
  | creatorFee => "CREATOR_FEE"
  | networkFee => "NETWORK_FEE"
  | external => "EXTERNAL"

/-- An account identifier: an address on the chain, or one of the formats the ledger uses. -/
inductive AccountId
  | address (text : String)
  | available (asset : AssetId)
  | reserved (asset : AssetId)
  /-- The deposit of a mint account of one round trip, or of the one wallet account. -/
  | lockedDeposit (mintOf : Option ContentDigest) (schemaId : String)
  | cashbackReceivable (roundtripId : ContentDigest)
  | venue (venueId : VenueId)
  | protocolFee (venueId : VenueId) (route : String)
  | creatorFee (venueId : VenueId) (route : String)
  | cashbackSource (venueId : VenueId) (route : String)
  | networkFee (network : String)
  | syntheticLiquidity (protocolNamespace : String) (digest : ContentDigest)
  deriving DecidableEq

/-- The text of an account identifier. -/
def AccountId.value : AccountId → String
  | address text => text
  | available asset => "portfolio:available:" ++ asset.value
  | reserved asset => "portfolio:reserved:" ++ asset.value
  | lockedDeposit none schemaId => "portfolio:locked-account-deposit:wallet:" ++ schemaId
  | lockedDeposit (some roundtripId) schemaId =>
    "portfolio:locked-account-deposit:mint:" ++ roundtripId.spelling ++ ":" ++ schemaId
  | cashbackReceivable roundtripId => "portfolio:receivable:cashback:" ++ roundtripId.spelling
  | venue venueId => "venue:" ++ venueId.value
  | protocolFee venueId route => "protocol-fee:pumpfun:" ++ venueId.value ++ ":" ++ route
  | creatorFee venueId route => "creator-fee:pumpfun:" ++ venueId.value ++ ":" ++ route
  | cashbackSource venueId route => "cashback-source:pumpfun:" ++ venueId.value ++ ":" ++ route
  | networkFee network => "network-fee:" ++ network
  | syntheticLiquidity protocolNamespace digest =>
    "synthetic-liquidity:" ++ protocolNamespace ++ ":" ++ digest.spelling

/-- The kind every posting to an account is made under; an address is never posted to. -/
def AccountId.kind : AccountId → AccountKind
  | address _ => .external
  | available _ => .portfolioAvailable
  | reserved _ => .portfolioReserved
  | lockedDeposit _ _ => .portfolioLocked
  | cashbackReceivable _ => .receivable
  | venue _ => .venue
  | protocolFee _ _ => .protocolFee
  | creatorFee _ _ => .creatorFee
  | cashbackSource _ _ => .external
  | networkFee _ => .networkFee
  | syntheticLiquidity _ _ => .external

/-- An available or reserved account is opened for one asset. -/
def AccountId.mayHold : AccountId → AssetId → Prop
  | available a, asset => a = asset
  | reserved a, asset => a = asset
  | _, _ => True

/-! ## Trimmed texts -/

theorem isTrimmedList_append {xs ys : List Char} (hx : xs ≠ [])
    (hxs : isTrimmedList xs = true) (hy : ys ≠ []) (hys : isTrimmedList ys = true) :
    isTrimmedList (xs ++ ys) = true := by
  rw [isTrimmedList, Bool.and_eq_true] at hxs hys ⊢
  refine ⟨?_, ?_⟩
  · rw [List.head?_append_of_ne_nil xs hx]
    exact hxs.1
  · rw [List.getLast?_append_of_ne_nil xs hy]
    exact hys.2

/-- Two trimmed texts make a trimmed text. -/
theorem nonemptyTrimmed_append {a b : String} (ha : nonemptyTrimmed a = true)
    (hb : nonemptyTrimmed b = true) : nonemptyTrimmed (a ++ b) = true := by
  simp only [nonemptyTrimmed, Bool.and_eq_true, Bool.not_eq_true', List.isEmpty_eq_false_iff]
    at ha hb ⊢
  rw [String.toList_append]
  exact ⟨by simp [ha.1], isTrimmedList_append ha.1 ha.2 hb.1 hb.2⟩

theorem nonemptyTrimmed_of_stableToken {a : String} (h : stableToken a = true) :
    nonemptyTrimmed a = true := by
  simp only [stableToken, Bool.and_eq_true] at h
  exact h.1.1

end OnchainBacktest
