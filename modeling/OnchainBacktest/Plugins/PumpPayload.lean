import OnchainBacktest.Plugins.PumpModel

/-!
# Payloads of Pump events

A payload is the canonical JSON document of one curve state: its seven fields in alphabetical
order, no blanks, integers and names only.  Decoding reads the fields and accepts the payload when
encoding them again gives the same bytes, so what is accepted is exactly what `encodeState` writes
(`decodeState_eq_ok`, `decodeState_encodeState`).
-/

set_option autoImplicit false

namespace OnchainBacktest

open Checked

def PumpMode.value : PumpMode → String
  | normal => "NORMAL"
  | token2022 => "TOKEN_2022"
  | cashback => "CASHBACK"
  | mayhem => "MAYHEM"
  | unknown => "UNKNOWN"

def PumpCurveLifecycle.value : PumpCurveLifecycle → String
  | active => "ACTIVE"
  | completed => "COMPLETED"
  | migrated => "MIGRATED"
  | unknown => "UNKNOWN"

/-- The constructor of a curve state. -/
def PumpCurveStateV1.make (virtualTokenReservesAtomic virtualSolReservesLamports
    realTokenReservesAtomic realSolReservesLamports tokenTotalSupplyAtomic : Nat)
    (lifecycle : PumpCurveLifecycle) (mode : PumpMode) : Except Fault PumpCurveStateV1 :=
  if h1 : 0 < virtualTokenReservesAtomic ∧ virtualTokenReservesAtomic ≤ MAX_U64 then
    if h2 : 0 < virtualSolReservesLamports ∧ virtualSolReservesLamports ≤ MAX_U64 then
      if h3 : realTokenReservesAtomic ≤ MAX_U64 then
        if h4 : realSolReservesLamports ≤ MAX_U64 then
          if h5 : 0 < tokenTotalSupplyAtomic ∧ tokenTotalSupplyAtomic ≤ MAX_U64 then
            if h6 : realTokenReservesAtomic ≤ tokenTotalSupplyAtomic then
              .ok ⟨virtualTokenReservesAtomic, virtualSolReservesLamports, realTokenReservesAtomic,
                realSolReservesLamports, tokenTotalSupplyAtomic, lifecycle, mode, h1.1, h1.2, h2.1,
                h2.2, h3, h4, h5.1, h5.2, h6⟩
            else .error (.value "real token reserves cannot exceed total token supply")
          else .error (.value "token_total_supply_atomic must be a positive u64")
        else .error (.value "real_sol_reserves_lamports must be a u64")
      else .error (.value "real_token_reserves_atomic must be a u64")
    else .error (.value "virtual_sol_reserves_lamports must be a positive u64")
  else .error (.value "virtual_token_reserves_atomic must be a positive u64")

/-- The document of a curve state. -/
def stateDocument (state : PumpCurveStateV1) : String :=
  "\x7b\"lifecycle\":\"" ++ state.lifecycle.value ++ "\",\"mode\":\"" ++ state.mode.value
    ++ "\",\"real_sol_reserves_lamports\":" ++ toString state.realSolReservesLamports
    ++ ",\"real_token_reserves_atomic\":" ++ toString state.realTokenReservesAtomic
    ++ ",\"token_total_supply_atomic\":" ++ toString state.tokenTotalSupplyAtomic
    ++ ",\"virtual_sol_reserves_lamports\":" ++ toString state.virtualSolReservesLamports
    ++ ",\"virtual_token_reserves_atomic\":" ++ toString state.virtualTokenReservesAtomic ++ "\x7d"

def encodeState (state : PumpCurveStateV1) : List UInt8 :=
  (stateDocument state).toList.map fun c => UInt8.ofNat c.toNat

/-! ## Reading a document -/

/-- The text after a literal. -/
def readLiteral (literal : String) (cs : List Char) : Option (List Char) :=
  if literal.toList.isPrefixOf cs then some (cs.drop literal.toList.length) else none

/-- The digits a text starts with, as a number, and the text after them. -/
def readInteger (cs : List Char) : Option (Nat × List Char) :=
  let digits := cs.takeWhile Char.isDigit
  if digits = [] then none
  else some (digits.foldl (fun n c => 10 * n + (c.toNat - 48)) 0, cs.drop digits.length)

/-- The member of a closed enumeration a text starts with. -/
def readName {α : Type} (values : List (String × α)) (cs : List Char) : Option (α × List Char) :=
  values.findSome? fun e => (readLiteral (e.1 ++ "\"") cs).map fun rest => (e.2, rest)

/-- The fields of a document, in the order they are written. -/
def readFields (cs : List Char) :
    Option (PumpCurveLifecycle × PumpMode × Nat × Nat × Nat × Nat × Nat) := do
  let cs ← readLiteral "\x7b\"lifecycle\":\"" cs
  let (lifecycle, cs) ← readName [("ACTIVE", PumpCurveLifecycle.active),
    ("COMPLETED", .completed), ("MIGRATED", .migrated), ("UNKNOWN", .unknown)] cs
  let cs ← readLiteral ",\"mode\":\"" cs
  let (mode, cs) ← readName [("NORMAL", PumpMode.normal), ("TOKEN_2022", .token2022),
    ("CASHBACK", .cashback), ("MAYHEM", .mayhem), ("UNKNOWN", .unknown)] cs
  let cs ← readLiteral ",\"real_sol_reserves_lamports\":" cs
  let (realSol, cs) ← readInteger cs
  let cs ← readLiteral ",\"real_token_reserves_atomic\":" cs
  let (realToken, cs) ← readInteger cs
  let cs ← readLiteral ",\"token_total_supply_atomic\":" cs
  let (supply, cs) ← readInteger cs
  let cs ← readLiteral ",\"virtual_sol_reserves_lamports\":" cs
  let (virtualSol, cs) ← readInteger cs
  let cs ← readLiteral ",\"virtual_token_reserves_atomic\":" cs
  let (virtualToken, _) ← readInteger cs
  some (lifecycle, mode, realSol, realToken, supply, virtualSol, virtualToken)

/-- Decode one payload; every way to fail is the same contract error. -/
def decodeState (payload : List UInt8) : Except Fault PumpCurveStateV1 :=
  match readFields (payload.map fun b => Char.ofNat b.toNat) with
  | none => .error (.protocolContract .malformedProtocolPayload)
  | some (lifecycle, mode, realSol, realToken, supply, virtualSol, virtualToken) =>
    match PumpCurveStateV1.make virtualToken virtualSol realToken realSol supply lifecycle mode with
    | .error _ => .error (.protocolContract .malformedProtocolPayload)
    | .ok state =>
      -- the document has to be the canonical encoding of its own fields
      if encodeState state = payload then .ok state
      else .error (.protocolContract .malformedProtocolPayload)

/-- An accepted payload is the encoding of the state it decodes to. -/
theorem decodeState_eq_ok {payload : List UInt8} {state : PumpCurveStateV1}
    (h : decodeState payload = .ok state) : encodeState state = payload := by
  rw [decodeState] at h
  split at h
  · cases h
  · split at h
    · cases h
    · split at h
      · cases h
        assumption
      · cases h

theorem stops_decodeState (payload : List UInt8) :
    Stops (fun e => e = .protocolContract .malformedProtocolPayload) (decodeState payload) := by
  intro e he
  rw [decodeState] at he
  split at he
  · cases he
    rfl
  · split at he
    · cases he
      rfl
    · split at he
      · cases he
      · cases he
        rfl

/-! ## Reading a document back -/

/-- A literal is read off a text that starts with it. -/
theorem readLiteral_append (literal text : String) :
    readLiteral literal (literal ++ text).toList = some text.toList := by
  rw [String.toList_append, readLiteral,
    if_pos (List.isPrefixOf_iff_prefix.mpr (List.prefix_append _ _)), List.drop_left]

theorem head?_append {literal : String} {c : Char} (text : String)
    (h : literal.toList.head? = some c) : (literal ++ text).toList.head? = some c := by
  rw [String.toList_append, List.head?_append, h]
  rfl

/-- A literal is not read off a text that starts with another character. -/
theorem readLiteral_eq_none {literal text : String} {c d : Char}
    (hc : literal.toList.head? = some c) (hd : text.toList.head? = some d) (hne : c ≠ d) :
    readLiteral literal text.toList = none := by
  rw [readLiteral, if_neg]
  rw [List.isPrefixOf_iff_prefix]
  rintro ⟨rest, h⟩
  have hhead := congrArg List.head? h
  rw [List.head?_append, hc, hd] at hhead
  exact hne (Option.some.inj hhead)

/-- **A name is read back from an enumeration whose names start differently.** -/
theorem readName_append {α : Type} {values : List (String × α)} {name : String} {value : α}
    (text : String) (hnodup : (values.map fun e => e.1.toList.head?).Nodup)
    (hstart : ∀ e ∈ values, e.1.toList.head? ≠ none) (hmem : (name, value) ∈ values) :
    readName values ((name ++ "\"") ++ text).toList = some (value, text.toList) := by
  induction values with
  | nil => cases hmem
  | cons e rest ih =>
    rw [List.map_cons, List.nodup_cons] at hnodup
    rw [readName, List.findSome?_cons]
    rcases List.mem_cons.mp hmem with rfl | hmem
    · rw [readLiteral_append]
      rfl
    · obtain ⟨c, hc⟩ := Option.ne_none_iff_exists'.mp (hstart e List.mem_cons_self)
      obtain ⟨d, hd⟩ := Option.ne_none_iff_exists'.mp
        (hstart (name, value) (List.mem_cons_of_mem _ hmem))
      have hne : c ≠ d := by
        rintro rfl
        refine hnodup.1 ?_
        rw [hc, ← hd]
        exact List.mem_map_of_mem (f := fun e : String × α => e.1.toList.head?) hmem
      rw [readLiteral_eq_none (head?_append _ hc) (head?_append _ (head?_append _ hd)) hne]
      exact ih hnodup.2 (fun e he => hstart e (List.mem_cons_of_mem _ he)) hmem

/-- A number is read off a text that starts with it and goes on with something else. -/
theorem readInteger_append (n : Nat) {text : String}
    (h : text.toList.head?.all (fun c => !c.isDigit) = true) :
    readInteger (toString n ++ text).toList = some (n, text.toList) := by
  have hdigits : (toString n).toList = Nat.toDigits 10 n := Nat.toList_repr
  have hall : ∀ c ∈ Nat.toDigits 10 n, c.isDigit = true := fun c hc =>
    Nat.isDigit_of_mem_toDigits (by decide) (by decide) hc
  have hrest : text.toList.takeWhile Char.isDigit = [] := by
    cases htext : text.toList with
    | nil => rfl
    | cons c cs =>
      rw [htext] at h
      have hc : c.isDigit = false := by simpa using h
      rw [List.takeWhile_cons, hc, if_neg (by simp)]
  have htake : (Nat.toDigits 10 n ++ text.toList).takeWhile Char.isDigit = Nat.toDigits 10 n := by
    rw [List.takeWhile_append_of_pos hall, hrest, List.append_nil]
  have hvalue : (Nat.toDigits 10 n).foldl (fun n c => 10 * n + (c.toNat - 48)) 0 = n := by
    have hof := Nat.ofDigitChars_toDigits (b := 10) (n := n) (by decide) (by decide)
    rw [Nat.ofDigitChars_eq_foldl] at hof
    exact hof
  rw [String.toList_append, readInteger, hdigits, htake, if_neg Nat.toDigits_ne_nil,
    List.drop_left, hvalue]


/-- What follows a number in a document does not start with a digit. -/
theorem not_digit_append {literal : String} {c : Char} (text : String)
    (h : literal.toList.head? = some c) (hc : c.isDigit = false) :
    (literal ++ text).toList.head?.all (fun d => !d.isDigit) = true := by
  rw [head?_append text h, Option.all_some, hc]
  rfl

/-- The document of a state, in the pieces it is read in. -/
theorem stateDocument_eq (state : PumpCurveStateV1) :
    stateDocument state = "\x7b\"lifecycle\":\"" ++ ((state.lifecycle.value ++ "\"")
      ++ (",\"mode\":\"" ++ ((state.mode.value ++ "\"")
      ++ (",\"real_sol_reserves_lamports\":" ++ (toString state.realSolReservesLamports
      ++ (",\"real_token_reserves_atomic\":" ++ (toString state.realTokenReservesAtomic
      ++ (",\"token_total_supply_atomic\":" ++ (toString state.tokenTotalSupplyAtomic
      ++ (",\"virtual_sol_reserves_lamports\":" ++ (toString state.virtualSolReservesLamports
      ++ (",\"virtual_token_reserves_atomic\":" ++ (toString state.virtualTokenReservesAtomic
      ++ "\x7d"))))))))))))) := by
  have hmode : "\",\"mode\":\"" = "\"" ++ ",\"mode\":\"" := by decide
  have hsol : "\",\"real_sol_reserves_lamports\":"
      = "\"" ++ ",\"real_sol_reserves_lamports\":" := by
    decide
  delta stateDocument
  rewrite [hmode, hsol]
  repeat rewrite [String.append_assoc]
  exact Eq.refl _

theorem readFields_stateDocument (state : PumpCurveStateV1) :
    readFields (stateDocument state).toList = some (state.lifecycle, state.mode,
      state.realSolReservesLamports, state.realTokenReservesAtomic, state.tokenTotalSupplyAtomic,
      state.virtualSolReservesLamports, state.virtualTokenReservesAtomic) := by
  have hlifecycle : (state.lifecycle.value, state.lifecycle) ∈
      [("ACTIVE", PumpCurveLifecycle.active), ("COMPLETED", .completed),
        ("MIGRATED", .migrated), ("UNKNOWN", .unknown)] := by
    cases state.lifecycle <;> decide
  have hmode : (state.mode.value, state.mode) ∈ [("NORMAL", PumpMode.normal),
      ("TOKEN_2022", .token2022), ("CASHBACK", .cashback), ("MAYHEM", .mayhem),
      ("UNKNOWN", .unknown)] := by
    cases state.mode <;> decide
  have hdigit : ∀ literal text : String, literal.toList.head? = some ',' →
      (literal ++ text).toList.head?.all (fun d => !d.isDigit) = true := fun literal text h =>
    not_digit_append text h rfl
  rewrite [stateDocument_eq, readFields, readLiteral_append]
  dsimp only [Option.bind_eq_bind, Option.bind_some]
  rewrite [readName_append _ (by decide) (by decide) hlifecycle]
  dsimp only [Option.bind_eq_bind, Option.bind_some]
  rewrite [readLiteral_append]
  dsimp only [Option.bind_eq_bind, Option.bind_some]
  rewrite [readName_append _ (by decide) (by decide) hmode]
  dsimp only [Option.bind_eq_bind, Option.bind_some]
  rewrite [readLiteral_append]
  dsimp only [Option.bind_eq_bind, Option.bind_some]
  rewrite [readInteger_append _ (hdigit _ _ (by decide))]
  dsimp only [Option.bind_eq_bind, Option.bind_some]
  rewrite [readLiteral_append]
  dsimp only [Option.bind_eq_bind, Option.bind_some]
  rewrite [readInteger_append _ (hdigit _ _ (by decide))]
  dsimp only [Option.bind_eq_bind, Option.bind_some]
  rewrite [readLiteral_append]
  dsimp only [Option.bind_eq_bind, Option.bind_some]
  rewrite [readInteger_append _ (hdigit _ _ (by decide))]
  dsimp only [Option.bind_eq_bind, Option.bind_some]
  rewrite [readLiteral_append]
  dsimp only [Option.bind_eq_bind, Option.bind_some]
  rewrite [readInteger_append _ (hdigit _ _ (by decide))]
  dsimp only [Option.bind_eq_bind, Option.bind_some]
  rewrite [readLiteral_append]
  dsimp only [Option.bind_eq_bind, Option.bind_some]
  rewrite [readInteger_append _ (by decide)]
  dsimp only [Option.bind_eq_bind, Option.bind_some]

/-- Every character of a text is a byte. -/
def isByteText (text : String) : Bool := text.toList.all fun c => decide (c.toNat < 256)

theorem isByteText_iff {text : String} :
    isByteText text = true ↔ ∀ c ∈ text.toList, c.toNat < 256 := by
  rw [isByteText, List.all_eq_true]
  simp only [decide_eq_true_eq]

theorem isByteText_append {a b : String} (ha : isByteText a = true) (hb : isByteText b = true) :
    isByteText (a ++ b) = true := by
  rw [isByteText, String.toList_append, List.all_append, Bool.and_eq_true]
  exact ⟨ha, hb⟩

theorem isByteText_toString (n : Nat) : isByteText (toString n) = true := by
  refine isByteText_iff.mpr fun c hc => ?_
  rw [show (toString n).toList = Nat.toDigits 10 n from Nat.toList_repr] at hc
  have hdigit := Nat.isDigit_of_mem_toDigits (by decide) (by decide) hc
  rw [Char.isDigit, Bool.and_eq_true, decide_eq_true_eq, decide_eq_true_eq] at hdigit
  have hle : c.toNat ≤ 57 := UInt32.le_iff_toNat_le.mp hdigit.2
  omega

theorem isByteText_lifecycle (lifecycle : PumpCurveLifecycle) :
    isByteText lifecycle.value = true := by
  cases lifecycle <;> decide

theorem isByteText_mode (mode : PumpMode) : isByteText mode.value = true := by
  cases mode <;> decide

theorem isByteText_stateDocument (state : PumpCurveStateV1) :
    isByteText (stateDocument state) = true := by
  have h1 : isByteText "\x7b\"lifecycle\":\"" = true := by decide
  have h2 : isByteText "\",\"mode\":\"" = true := by decide
  have h3 : isByteText "\",\"real_sol_reserves_lamports\":" = true := by decide
  have h4 : isByteText ",\"real_token_reserves_atomic\":" = true := by decide
  have h5 : isByteText ",\"token_total_supply_atomic\":" = true := by decide
  have h6 : isByteText ",\"virtual_sol_reserves_lamports\":" = true := by decide
  have h7 : isByteText ",\"virtual_token_reserves_atomic\":" = true := by decide
  have h8 : isByteText "\x7d" = true := by decide
  have h := isByteText_append (isByteText_append h1 (isByteText_lifecycle state.lifecycle)) h2
  have h := isByteText_append (isByteText_append h (isByteText_mode state.mode)) h3
  have h := isByteText_append
    (isByteText_append h (isByteText_toString state.realSolReservesLamports)) h4
  have h := isByteText_append
    (isByteText_append h (isByteText_toString state.realTokenReservesAtomic)) h5
  have h := isByteText_append
    (isByteText_append h (isByteText_toString state.tokenTotalSupplyAtomic)) h6
  have h := isByteText_append
    (isByteText_append h (isByteText_toString state.virtualSolReservesLamports)) h7
  exact isByteText_append
    (isByteText_append h (isByteText_toString state.virtualTokenReservesAtomic)) h8

/-- A state is made again from its own fields. -/
theorem PumpCurveStateV1.make_self (state : PumpCurveStateV1) :
    PumpCurveStateV1.make state.virtualTokenReservesAtomic state.virtualSolReservesLamports
      state.realTokenReservesAtomic state.realSolReservesLamports state.tokenTotalSupplyAtomic
      state.lifecycle state.mode = .ok state := by
  rw [make, dif_pos ⟨state.virtual_token_pos, state.virtual_token_le⟩,
    dif_pos ⟨state.virtual_sol_pos, state.virtual_sol_le⟩, dif_pos state.real_token_le,
    dif_pos state.real_sol_le, dif_pos ⟨state.supply_pos, state.supply_le⟩,
    dif_pos state.real_token_le_supply]

/-- A text of bytes is read off its own encoding. -/
theorem map_ofNat_of_isByteText {text : String} (h : isByteText text = true) :
    (text.toList.map fun c => UInt8.ofNat c.toNat).map (fun b => Char.ofNat b.toNat)
      = text.toList := by
  rw [List.map_map]
  refine (List.map_congr_left fun c hc => ?_).trans (List.map_id _)
  show Char.ofNat (UInt8.ofNat c.toNat).toNat = c
  rw [UInt8.toNat_ofNat', Nat.mod_eq_of_lt (isByteText_iff.mp h c hc), Char.ofNat_toNat]

/-- **What is encoded is decoded again.** -/
theorem decodeState_encodeState (state : PumpCurveStateV1) :
    decodeState (encodeState state) = .ok state := by
  have hbytes := map_ofNat_of_isByteText (isByteText_stateDocument state)
  rw [decodeState, encodeState, hbytes, readFields_stateDocument]
  simp only [PumpCurveStateV1.make_self]
  rw [encodeState, if_pos rfl]

end OnchainBacktest
