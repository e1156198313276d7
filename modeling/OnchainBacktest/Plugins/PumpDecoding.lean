import OnchainBacktest.Domain.Hashing
import OnchainBacktest.Lib.FlatJson
import OnchainBacktest.Plugins.PumpPayload

/-!
# Decoding any bytes as a Pump payload

`PumpPayload` reads payloads and calls every refusal a contract error.  Here `_decode_state` is
followed step by step on arbitrary bytes: `json.loads` inside the first `try`, the comparison with
the canonical bytes outside of it, and the fields inside the second.  What the comparison raises
escapes, and so does a text that is nested too deep to be read.

`decodes_iff` says of which payloads the decoder keeps to its one declared error.
-/

set_option autoImplicit false

namespace OnchainBacktest

open Checked
open PythonJson

namespace PumpDecoding

/-- What the decoder raises: `ProtocolContractError` with `MALFORMED_PROTOCOL_PAYLOAD`, or what
escapes from `json.loads` and `canonical_json_bytes`. -/
inductive DecodeFault
  | protocolContract
  | recursion
  | encode (fault : EncodeFault)
  deriving DecidableEq

/-- `_STATE_FIELDS`. -/
def STATE_FIELDS : List Points :=
  ["lifecycle", "mode", "real_sol_reserves_lamports", "real_token_reserves_atomic",
    "token_total_supply_atomic", "virtual_sol_reserves_lamports",
    "virtual_token_reserves_atomic"].map points

/-- `_encode_state`, the document. -/
def stateFields (state : PumpCurveStateV1) : List (Points × Value) :=
  [(points "lifecycle", .text (points state.lifecycle.value)),
    (points "mode", .text (points state.mode.value)),
    (points "real_sol_reserves_lamports", .integer state.realSolReservesLamports),
    (points "real_token_reserves_atomic", .integer state.realTokenReservesAtomic),
    (points "token_total_supply_atomic", .integer state.tokenTotalSupplyAtomic),
    (points "virtual_sol_reserves_lamports", .integer state.virtualSolReservesLamports),
    (points "virtual_token_reserves_atomic", .integer state.virtualTokenReservesAtomic)]

/-- `_encode_state`. -/
def encodeState (interpreter : Interpreter) (state : PumpCurveStateV1) :
    Except EncodeFault (List UInt8) :=
  canonicalJsonBytes interpreter (.object (stateFields state))

/-- `_integer`, of a field that the constructor takes no negative number for. -/
def natural (fields : List (Points × Value)) (field : String) : Option Nat :=
  match fields.lookup (points field) with
  | some (.integer n) => if n < 0 then none else some n.toNat
  | _ => none

/-- `_string`, as the member of an enumeration with that value. -/
def memberOf {α : Type} (members : List α) (value : α → String) (fields : List (Points × Value))
    (field : String) : Option α :=
  match fields.lookup (points field) with
  | some (.text s) => members.find? fun member => points (value member) = s
  | _ => none

/-- The state of some fields. -/
def stateOf (fields : List (Points × Value)) : Option PumpCurveStateV1 := do
  let virtualToken ← natural fields "virtual_token_reserves_atomic"
  let virtualSol ← natural fields "virtual_sol_reserves_lamports"
  let realToken ← natural fields "real_token_reserves_atomic"
  let realSol ← natural fields "real_sol_reserves_lamports"
  let supply ← natural fields "token_total_supply_atomic"
  let lifecycle ← memberOf [.active, .completed, .migrated, .unknown] PumpCurveLifecycle.value
    fields "lifecycle"
  let mode ← memberOf [.normal, .token2022, .cashback, .mayhem, .unknown] PumpMode.value fields
    "mode"
  (PumpCurveStateV1.make virtualToken virtualSol realToken realSol supply lifecycle mode).toOption

/-- The keys of an object are the fields of a state. -/
def HasStateFields (fields : List (Points × Value)) : Prop :=
  (∀ field ∈ fields, field.1 ∈ STATE_FIELDS) ∧ ∀ key ∈ STATE_FIELDS, key ∈ fields.map Prod.fst

instance decidableHasStateFields (fields : List (Points × Value)) :
    Decidable (HasStateFields fields) := by
  unfold HasStateFields
  infer_instance

/-- `_decode_state`. -/
def decodeState (interpreter : Interpreter) (payload : List UInt8) :
    Except DecodeFault PumpCurveStateV1 :=
  match loads interpreter.loadsDepth payload with
  | .error .value => .error .protocolContract
  | .error .recursion => .error .recursion
  | .ok (.object fields) =>
    if HasStateFields fields then
      match canonicalJsonBytes interpreter (.object fields) with
      | .error fault => .error (.encode fault)
      | .ok bytes =>
        if bytes ≠ payload then .error .protocolContract
        else
          match stateOf fields with
          | none => .error .protocolContract
          | some state => .ok state
    else .error .protocolContract
  | .ok _ => .error .protocolContract

/-! ## The document of a state -/

theorem flat_natural {n : Nat} (h : n ≤ MAX_U64) : Flat (.integer n) := by
  have hfits : n < 10 ^ 20 := by
    rw [MAX_U64] at h
    omega
  have hlength : (Nat.toDigits 10 n).length ≤ 20 :=
    (Nat.length_toDigits_le_iff (by decide) (by decide)).mpr hfits
  refine .integer ?_
  rw [digits, List.length_map, INT_MAX_STR_DIGITS]
  omega

theorem plain_lifecycle (lifecycle : PumpCurveLifecycle) : Plain (points lifecycle.value) := by
  cases lifecycle <;> decide

theorem plain_mode (mode : PumpMode) : Plain (points mode.value) := by
  cases mode <;> decide

theorem stateFields_keys (state : PumpCurveStateV1) :
    (stateFields state).map Prod.fst = STATE_FIELDS := rfl

theorem stateFields_ordered : STATE_FIELDS.Pairwise (· < ·) := by
  decide

theorem stateFields_plain : ∀ key ∈ STATE_FIELDS, Plain key := by
  decide

/-- The document of a state is a flat object. -/
theorem stateFields_flat (state : PumpCurveStateV1) : FlatFields (stateFields state) where
  flat field hfield := by
    refine ⟨stateFields_plain _ ?_, ?_⟩
    · rw [← stateFields_keys state]
      exact List.mem_map_of_mem hfield
    · simp only [stateFields, List.mem_cons, List.not_mem_nil, or_false] at hfield
      rcases hfield with rfl | rfl | rfl | rfl | rfl | rfl | rfl
      · exact .text (plain_lifecycle _)
      · exact .text (plain_mode _)
      · exact flat_natural state.real_sol_le
      · exact flat_natural state.real_token_le
      · exact flat_natural state.supply_le
      · exact flat_natural state.virtual_sol_le
      · exact flat_natural state.virtual_token_le
  ordered := by
    rw [stateFields_keys]
    exact stateFields_ordered

theorem hasStateFields_stateFields (state : PumpCurveStateV1) :
    HasStateFields (stateFields state) := by
  rw [HasStateFields, stateFields_keys]
  refine ⟨fun field hfield => ?_, fun _ hkey => hkey⟩
  rw [← stateFields_keys state]
  exact List.mem_map_of_mem hfield

/-- A key of a dictionary is looked up. -/
theorem lookup_of_mem {fields : List (Points × Value)} (hnodup : (fields.map Prod.fst).Nodup)
    {key : Points} {value : Value} (hmem : (key, value) ∈ fields) :
    fields.lookup key = some value := by
  induction fields with
  | nil => cases hmem
  | cons field fields ih =>
    obtain ⟨hfresh, hnodup⟩ := List.nodup_cons.mp hnodup
    rw [List.lookup_cons]
    rcases List.mem_cons.mp hmem with rfl | hmem
    · simp
    · have hne : (key == field.1) = false := by
        refine beq_eq_false_iff_ne.mpr fun heq => hfresh ?_
        rw [← heq]
        exact List.mem_map_of_mem (f := Prod.fst) hmem
      rw [hne]
      exact ih hnodup hmem

theorem mem_of_lookup {fields : List (Points × Value)} {key : Points} {value : Value}
    (h : fields.lookup key = some value) : (key, value) ∈ fields := by
  induction fields with
  | nil => cases h
  | cons field fields ih =>
    rw [List.lookup_cons] at h
    by_cases heq : key = field.1
    · subst heq
      simp only [beq_self_eq_true] at h
      exact List.mem_cons.mpr (.inl (Prod.ext rfl (Option.some.inj h).symm))
    · rw [beq_eq_false_iff_ne.mpr heq] at h
      exact List.mem_cons_of_mem _ (ih h)

theorem natural_eq {fields : List (Points × Value)} (hnodup : (fields.map Prod.fst).Nodup)
    {field : String} {n : Nat} (hmem : (points field, .integer n) ∈ fields) :
    natural fields field = some n := by
  rw [natural, lookup_of_mem hnodup hmem]
  simp

theorem memberOf_lifecycle {fields : List (Points × Value)}
    (hnodup : (fields.map Prod.fst).Nodup) {lifecycle : PumpCurveLifecycle}
    (hmem : (points "lifecycle", .text (points lifecycle.value)) ∈ fields) :
    memberOf [.active, .completed, .migrated, .unknown] PumpCurveLifecycle.value fields
      "lifecycle" = some lifecycle := by
  rw [memberOf, lookup_of_mem hnodup hmem]
  cases lifecycle <;> decide

theorem memberOf_mode {fields : List (Points × Value)} (hnodup : (fields.map Prod.fst).Nodup)
    {mode : PumpMode} (hmem : (points "mode", .text (points mode.value)) ∈ fields) :
    memberOf [.normal, .token2022, .cashback, .mayhem, .unknown] PumpMode.value fields "mode" =
      some mode := by
  rw [memberOf, lookup_of_mem hnodup hmem]
  cases mode <;> decide

/-- The fields of a state give the state back. -/
theorem stateOf_stateFields (state : PumpCurveStateV1) :
    stateOf (stateFields state) = some state := by
  have hnodup := (stateFields_flat state).nodup
  rw [stateOf, natural_eq hnodup (n := state.virtualTokenReservesAtomic) (by simp [stateFields]),
    natural_eq hnodup (n := state.virtualSolReservesLamports) (by simp [stateFields]),
    natural_eq hnodup (n := state.realTokenReservesAtomic) (by simp [stateFields]),
    natural_eq hnodup (n := state.realSolReservesLamports) (by simp [stateFields]),
    natural_eq hnodup (n := state.tokenTotalSupplyAtomic) (by simp [stateFields]),
    @memberOf_lifecycle _ hnodup state.lifecycle (by simp [stateFields]),
    @memberOf_mode _ hnodup state.mode (by simp [stateFields])]
  simp only [Option.bind_eq_bind, Option.bind_some, PumpCurveStateV1.make_self, Except.toOption]

theorem natural_eq_some {fields : List (Points × Value)} {field : String} {n : Nat}
    (h : natural fields field = some n) : (points field, .integer n) ∈ fields := by
  rw [natural] at h
  split at h
  · rename_i m hlookup
    split_ifs at h with hneg
    obtain rfl := Option.some.inj h
    rw [Int.toNat_of_nonneg (not_lt.mp hneg)]
    exact mem_of_lookup hlookup
  · cases h

theorem memberOf_eq_some {α : Type} {members : List α} {value : α → String}
    {fields : List (Points × Value)} {field : String} {member : α}
    (h : memberOf members value fields field = some member) :
    (points field, .text (points (value member))) ∈ fields := by
  rw [memberOf] at h
  split at h
  · rename_i s hlookup
    rw [of_decide_eq_true (List.find?_some (p := fun m => decide (points (value m) = s)) h)]
    exact mem_of_lookup hlookup
  · cases h

/-- The state that is made has the fields it is made from. -/
theorem make_eq_ok {virtualToken virtualSol realToken realSol supply : Nat}
    {lifecycle : PumpCurveLifecycle} {mode : PumpMode} {state : PumpCurveStateV1}
    (h : PumpCurveStateV1.make virtualToken virtualSol realToken realSol supply lifecycle mode =
      .ok state) :
    state.virtualTokenReservesAtomic = virtualToken ∧
      state.virtualSolReservesLamports = virtualSol ∧ state.realTokenReservesAtomic = realToken ∧
      state.realSolReservesLamports = realSol ∧ state.tokenTotalSupplyAtomic = supply ∧
      state.lifecycle = lifecycle ∧ state.mode = mode := by
  rw [PumpCurveStateV1.make] at h
  split_ifs at h
  cases h
  exact ⟨rfl, rfl, rfl, rfl, rfl, rfl, rfl⟩

/-- What a state is read from has its fields, and no others when these are all. -/
theorem stateOf_eq_some {fields : List (Points × Value)} {state : PumpCurveStateV1}
    (hkeys : HasStateFields fields) (hnodup : (fields.map Prod.fst).Nodup)
    (h : stateOf fields = some state) : fields.Perm (stateFields state) := by
  obtain ⟨virtualToken, hvirtualToken, h⟩ := Option.bind_eq_some_iff.mp h
  obtain ⟨virtualSol, hvirtualSol, h⟩ := Option.bind_eq_some_iff.mp h
  obtain ⟨realToken, hrealToken, h⟩ := Option.bind_eq_some_iff.mp h
  obtain ⟨realSol, hrealSol, h⟩ := Option.bind_eq_some_iff.mp h
  obtain ⟨supply, hsupply, h⟩ := Option.bind_eq_some_iff.mp h
  obtain ⟨lifecycle, hlifecycle, h⟩ := Option.bind_eq_some_iff.mp h
  obtain ⟨mode, hmode, h⟩ := Option.bind_eq_some_iff.mp h
  cases hmake : PumpCurveStateV1.make virtualToken virtualSol realToken realSol supply lifecycle
      mode with
  | error fault =>
    rw [hmake] at h
    cases h
  | ok made =>
    rw [hmake] at h
    obtain rfl := Option.some.inj h
    obtain ⟨rfl, rfl, rfl, rfl, rfl, rfl, rfl⟩ := make_eq_ok hmake
    have hthere : ∀ field ∈ stateFields made, field ∈ fields := by
      intro field hfield
      simp only [stateFields, List.mem_cons, List.not_mem_nil, or_false] at hfield
      rcases hfield with rfl | rfl | rfl | rfl | rfl | rfl | rfl
      · exact memberOf_eq_some hlifecycle
      · exact memberOf_eq_some hmode
      · exact natural_eq_some hrealSol
      · exact natural_eq_some hrealToken
      · exact natural_eq_some hsupply
      · exact natural_eq_some hvirtualSol
      · exact natural_eq_some hvirtualToken
    refine (List.perm_ext_iff_of_nodup (List.Nodup.of_map _ hnodup)
      (List.Nodup.of_map _ (stateFields_flat made).nodup)).mpr fun field => ⟨fun hfield => ?_,
        hthere field⟩
    have hkey := hkeys.1 field hfield
    rw [← stateFields_keys made, List.mem_map] at hkey
    obtain ⟨known, hknown, hsame⟩ := hkey
    rwa [← List.inj_on_of_nodup_map hnodup (hthere known hknown) hfield hsame]

/-! ## Encoding a state -/

section Decoder

variable {interpreter : Interpreter} {payload : List UInt8} {state : PumpCurveStateV1}

theorem hasFloat_stateFields (state : PumpCurveStateV1) :
    hasFloat (.object (stateFields state)) = false := rfl

theorem callsOf_stateFields (state : PumpCurveStateV1) :
    callsOf (.object (stateFields state)) = 2 := rfl

theorem nesting_stateFields (state : PumpCurveStateV1) :
    nesting (.object (stateFields state)) = 1 := rfl

/-- The encoding of a state never raises. -/
theorem encodeState_eq (interpreter : Interpreter) (state : PumpCurveStateV1) :
    encodeState interpreter state =
      .ok ((write (.object (stateFields state))).map UInt8.ofNat) := by
  rw [encodeState, canonicalJsonBytes_eq_ok, hasFloat_stateFields, callsOf_stateFields,
    nesting_stateFields]
  exact ⟨⟨rfl, interpreter.frames_pos⟩, interpreter.dumps_pos,
    encodeUtf8_of_ascii (stateFields_flat state).ascii⟩

/-- The document of a state is read from its encoding. -/
theorem loads_encodeState (interpreter : Interpreter)
    (h : encodeState interpreter state = .ok payload) :
    loads interpreter.loadsDepth payload = .ok (.object (stateFields state)) := by
  rw [encodeState_eq] at h
  obtain ⟨depth, hdepth⟩ : ∃ depth, interpreter.loadsDepth = depth + 1 :=
    ⟨interpreter.loadsDepth - 1, by have hpos := interpreter.loads_pos; omega⟩
  rw [← Except.ok.inj h, hdepth]
  exact loads_write (stateFields_flat state) (by simp [stateFields]) depth

/-- **What is encoded is decoded again.** -/
theorem decodeState_encodeState (h : encodeState interpreter state = .ok payload) :
    decodeState interpreter payload = .ok state := by
  have hencoded : canonicalJsonBytes interpreter (.object (stateFields state)) = .ok payload := h
  rw [decodeState, loads_encodeState interpreter h]
  dsimp only
  rw [if_pos (hasStateFields_stateFields state), hencoded]
  dsimp only
  rw [if_neg (not_not.mpr rfl), stateOf_stateFields]

theorem points_append (a b : String) : points (a ++ b) = points a ++ points b := by
  rw [points, String.toList_append, List.map_append, points, points]

theorem writeMember_text {key s : Points} (hkey : Plain key) (h : Plain s) :
    writeMember (key, .text s) = 34 :: (key ++ 34 :: 58 :: 34 :: (s ++ [34])) := by
  rw [writeMember, write, quoted_of_plain hkey, quoted_of_plain h]
  simp

theorem writeMember_natural {key : Points} (hkey : Plain key) (n : Nat) :
    writeMember (key, .integer n) = 34 :: (key ++ 34 :: 58 :: points (toString n)) := by
  rw [writeMember, write, quoted_of_plain hkey, List.cons_append, List.append_assoc]
  rfl

/-- The text of the document, in the pieces of `stateDocument`. -/
theorem write_stateFields (state : PumpCurveStateV1) :
    write (.object (stateFields state)) = points (stateDocument state) := by
  have hstart : points "\x7b\"lifecycle\":\"" =
      123 :: 34 :: (points "lifecycle" ++ [34, 58, 34]) := by
    decide
  have hquote : points "\"" = [34] := by decide
  have hmode : points ",\"mode\":\"" = 44 :: 34 :: (points "mode" ++ [34, 58, 34]) := by
    decide
  have hrealSol : points ",\"real_sol_reserves_lamports\":" =
      44 :: 34 :: (points "real_sol_reserves_lamports" ++ [34, 58]) := by
    decide
  have hrealToken : points ",\"real_token_reserves_atomic\":" =
      44 :: 34 :: (points "real_token_reserves_atomic" ++ [34, 58]) := by
    decide
  have hsupply : points ",\"token_total_supply_atomic\":" =
      44 :: 34 :: (points "token_total_supply_atomic" ++ [34, 58]) := by
    decide
  have hvirtualSol : points ",\"virtual_sol_reserves_lamports\":" =
      44 :: 34 :: (points "virtual_sol_reserves_lamports" ++ [34, 58]) := by
    decide
  have hvirtualToken : points ",\"virtual_token_reserves_atomic\":" =
      44 :: 34 :: (points "virtual_token_reserves_atomic" ++ [34, 58]) := by
    decide
  have hend : points "\x7d" = [125] := by decide
  have hplain := stateFields_plain
  simp only [STATE_FIELDS, List.map_cons, List.map_nil, List.forall_mem_cons] at hplain
  obtain ⟨hk1, hk2, hk3, hk4, hk5, hk6, hk7, -⟩ := hplain
  rw [write_object (stateFields_flat state).ordered, stateFields, stateDocument_eq]
  simp only [List.map_cons, List.map_nil, joined, writeMember_text hk1 (plain_lifecycle _),
    writeMember_text hk2 (plain_mode _), writeMember_natural hk3, writeMember_natural hk4,
    writeMember_natural hk5, writeMember_natural hk6, writeMember_natural hk7, points_append,
    hstart, hquote, hmode, hrealSol, hrealToken, hsupply, hvirtualSol, hvirtualToken, hend,
    List.append_assoc, List.cons_append, List.nil_append]

/-- Both models encode a state the same way. -/
theorem encodeState_eq_payload (interpreter : Interpreter) (state : PumpCurveStateV1) :
    encodeState interpreter state = .ok (OnchainBacktest.encodeState state) := by
  rw [encodeState_eq, write_stateFields, points, OnchainBacktest.encodeState, List.map_map]
  rfl

/-! ## Decoding any bytes -/

/-- **What is accepted is an encoding.**  A payload that is decoded is the encoding of its state. -/
theorem encodeState_of_decodeState (h : decodeState interpreter payload = .ok state) :
    encodeState interpreter state = .ok payload := by
  rw [decodeState] at h
  split at h
  · cases h
  · cases h
  · rename_i fields hloads
    split at h
    · rename_i hkeys
      split at h
      · cases h
      · rename_i bytes hbytes
        split at h
        · cases h
        · rename_i hsame
          split at h
          · cases h
          · rename_i read hread
            obtain rfl := Except.ok.inj h
            obtain rfl := not_not.mp hsame
            have hnodup := nodup_of_loads hloads
            have hperm := stateOf_eq_some hkeys hnodup hread
            rw [encodeState_eq, ← encodeUtf8_of_ascii (stateFields_flat read).ascii,
              ← write_object_perm hnodup hperm]
            exact (canonicalJsonBytes_eq_ok.mp hbytes).2.2
    · cases h
  · cases h

/-- The payload is decoded to a state whose encoding it is, or refused with the one error that the
decoder declares. -/
def Decodes (interpreter : Interpreter) (payload : List UInt8) : Prop :=
  (∃ state, decodeState interpreter payload = .ok state ∧
    encodeState interpreter state = .ok payload) ∨
  decodeState interpreter payload = .error .protocolContract

/-- The payload is not nested deeper than the stack allows, and if it holds an object with exactly
the fields of a state, then that object has no float and no half of a surrogate pair in it and does
not exhaust the stack either. -/
def Readable (interpreter : Interpreter) (payload : List UInt8) : Prop :=
  loads interpreter.loadsDepth payload ≠ .error .recursion ∧
    ∀ fields, loads interpreter.loadsDepth payload = .ok (.object fields) →
      HasStateFields fields → Encodable interpreter (.object fields)

/-- An object with the fields of a state is read, compared and never escapes when it has an
encoding. -/
theorem decodes_object {fields : List (Points × Value)}
    (hloads : loads interpreter.loadsDepth payload = .ok (.object fields)) :
    Decodes interpreter payload ↔
      (HasStateFields fields → Encodable interpreter (.object fields)) := by
  rw [← exists_canonicalJsonBytes]
  by_cases hkeys : HasStateFields fields
  · cases hbytes : canonicalJsonBytes interpreter (.object fields) with
    | error fault =>
      have hdecode : decodeState interpreter payload = .error (.encode fault) := by
        rw [decodeState, hloads]
        dsimp only
        rw [if_pos hkeys, hbytes]
      rw [Decodes, hdecode]
      simp [hkeys]
    | ok bytes =>
      refine iff_of_true ?_ fun _ => ⟨bytes, rfl⟩
      cases hdecode : decodeState interpreter payload with
      | ok state => exact .inl ⟨state, hdecode, encodeState_of_decodeState hdecode⟩
      | error fault =>
        refine .inr ?_
        rw [decodeState, hloads] at hdecode ⊢
        dsimp only at hdecode ⊢
        rw [if_pos hkeys, hbytes] at hdecode ⊢
        dsimp only at hdecode ⊢
        split_ifs at hdecode ⊢
        · rfl
        · split at hdecode
          · rfl
          · cases hdecode
  · refine iff_of_true (.inr ?_) fun h => absurd h hkeys
    rw [decodeState, hloads]
    exact if_neg hkeys

/-- **Which payloads keep the decoder to its one error.** -/
theorem decodes_iff_readable : Decodes interpreter payload ↔ Readable interpreter payload := by
  rw [Readable]
  cases hloads : loads interpreter.loadsDepth payload with
  | error fault =>
    cases fault with
    | value =>
      refine iff_of_true (.inr ?_) (by simp)
      rw [decodeState, hloads]
    | recursion =>
      have hdecode : decodeState interpreter payload = .error .recursion := by
        rw [decodeState, hloads]
      refine iff_of_false ?_ (by simp)
      rw [Decodes, hdecode]
      simp
  | ok value =>
    by_cases hobject : ∃ fields, value = .object fields
    · obtain ⟨fields, rfl⟩ := hobject
      rw [decodes_object hloads]
      simp
    · refine iff_of_true (.inr ?_) ?_
      · rw [decodeState, hloads]
        cases value with
        | object fields => exact absurd ⟨fields, rfl⟩ hobject
        | _ => rfl
      · refine ⟨by simp, fun fields hfields => ?_⟩
        exact absurd ⟨fields, Except.ok.inj hfields⟩ hobject

/-- Where nothing escapes, this is the decoder that refuses every payload with one error. -/
theorem decodeState_eq_payload (h : Readable interpreter payload) :
    OnchainBacktest.decodeState payload = (decodeState interpreter payload).mapError fun _ =>
      .protocolContract .malformedProtocolPayload := by
  rcases decodes_iff_readable.mpr h with ⟨state, hdecode, hencode⟩ | hdecode
  · rw [encodeState_eq_payload] at hencode
    rw [hdecode, ← Except.ok.inj hencode, OnchainBacktest.decodeState_encodeState]
    rfl
  · rw [hdecode]
    cases hold : OnchainBacktest.decodeState payload with
    | ok state =>
      have hencode := encodeState_eq_payload interpreter state
      rw [decodeState_eq_ok hold] at hencode
      rw [decodeState_encodeState hencode] at hdecode
      cases hdecode
    | error fault =>
      rw [stops_decodeState payload fault hold]
      rfl

/-- **The decoder on any payload.**  It keeps to its one error exactly on the payloads that can be
read and encoded, and it decodes what is encoded from any state. -/
theorem decodes_iff (interpreter : Interpreter) (payload : List UInt8) :
    (Decodes interpreter payload ↔ Readable interpreter payload) ∧
      ∀ state, ∃ bytes, encodeState interpreter state = .ok bytes ∧
        decodeState interpreter bytes = .ok state :=
  ⟨decodes_iff_readable, fun state =>
    ⟨_, encodeState_eq interpreter state, decodeState_encodeState (encodeState_eq _ state)⟩⟩

end Decoder

/-! ## A float -/

theorem wideStack_loads : 1 ≤ 10000 := by decide

theorem wideStack_frames : 2 ≤ 900 := by decide

/-- A stack with room for many calls. -/
def wideStack : Interpreter where
  loadsDepth := 10000
  frames := 900
  dumpsDepth := 10000
  loads_pos := wideStack_loads
  frames_pos := wideStack_frames
  dumps_pos := wideStack_loads

/-- An object with the fields of a state, all of them zero but for the mode, which is a float. -/
def floatPayload : List UInt8 :=
  (123 :: (joined (STATE_FIELDS.map fun key =>
    quoted key ++ 58 :: (if key = points "mode" then points "0.5" else points "0")) ++
      [125])).map UInt8.ofNat

/-- The fault of a decoding. -/
def faultOf (decoded : Except DecodeFault PumpCurveStateV1) : Option DecodeFault :=
  match decoded with
  | .ok _ => none
  | .error fault => some fault

/-- The `TypeError` of the float escapes. -/
theorem floatPayload_escapes :
    faultOf (decodeState wideStack floatPayload) = some (.encode .type) ∧
      ¬ Decodes wideStack floatPayload := by
  have hfault : faultOf (decodeState wideStack floatPayload) = some (.encode .type) := by
    decide +kernel
  refine ⟨hfault, ?_⟩
  rintro (⟨state, hdecode, -⟩ | hdecode)
  · rw [hdecode] at hfault
    cases hfault
  · rw [hdecode] at hfault
    cases hfault

end PumpDecoding

end OnchainBacktest
