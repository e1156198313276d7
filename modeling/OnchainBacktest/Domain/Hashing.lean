import OnchainBacktest.Lib.PythonJson

/-!
# Canonical JSON

The exact encoding that identities are hashed from: `_validate` walks the document and refuses
floats, `json.dumps` writes it with sorted keys, and the text is encoded in UTF-8.  Each of the
three can raise, and `canonicalJsonBytes_eq_ok` says when none does.
-/

set_option autoImplicit false

namespace OnchainBacktest

open Checked
open PythonJson

/-- The stack that a call finds: the containers that `json.loads` can enter, the calls of Python
functions that are left, and the containers that `json.dumps` can enter.  An object without a
container in it is always within reach. -/
structure Interpreter where
  loadsDepth : Nat
  frames : Nat
  dumpsDepth : Nat
  loads_pos : 1 ≤ loadsDepth
  frames_pos : 2 ≤ frames
  dumps_pos : 1 ≤ dumpsDepth

mutual

/-- `_validate`, with so many calls left: `_reject_float` is one more call, and so is the look at
the keys of a dictionary. -/
def validate : Nat → Value → Except EncodeFault Unit
  | 0, _ => .error .recursion
  | frames + 1, .float => if frames = 0 then .error .recursion else .error .type
  | frames + 1, .array items => validateItems frames items
  | frames + 1, .object fields =>
    if frames = 0 then .error .recursion else validateFields frames fields
  | _ + 1, _ => .ok ()

def validateItems : Nat → List Value → Except EncodeFault Unit
  | _, [] => .ok ()
  | frames, item :: items => do
    validate frames item
    validateItems frames items

def validateFields : Nat → List (Points × Value) → Except EncodeFault Unit
  | _, [] => .ok ()
  | frames, (_, value) :: fields => do
    validate frames value
    validateFields frames fields

end

/-- `canonical_json_bytes`. -/
def canonicalJsonBytes (interpreter : Interpreter) (value : Value) :
    Except EncodeFault (List UInt8) := do
  validate interpreter.frames value
  let text ← dumps interpreter.dumpsDepth value
  encodeUtf8 text

/-! ## What stops the encoding -/

mutual

/-- Whether a float is part of a value. -/
def hasFloat : Value → Bool
  | .float => true
  | .array items => hasFloatItems items
  | .object fields => hasFloatFields fields
  | _ => false

def hasFloatItems : List Value → Bool
  | [] => false
  | item :: items => hasFloat item || hasFloatItems items

def hasFloatFields : List (Points × Value) → Bool
  | [] => false
  | (_, value) :: fields => hasFloat value || hasFloatFields fields

end

mutual

/-- How many calls are open at once while a value is validated. -/
def callsOf : Value → Nat
  | .array items => callsOfItems items + 1
  | .object fields => max 1 (callsOfFields fields) + 1
  | _ => 1

def callsOfItems : List Value → Nat
  | [] => 0
  | item :: items => max (callsOf item) (callsOfItems items)

def callsOfFields : List (Points × Value) → Nat
  | [] => 0
  | (_, value) :: fields => max (callsOf value) (callsOfFields fields)

end

/-- Half of a surrogate pair is in a string of a value. -/
def HasSurrogate (value : Value) : Prop := ∃ s ∈ texts value, ∃ c ∈ s, isSurrogate c

/-- A value that the encoding takes. -/
structure Encodable (interpreter : Interpreter) (value : Value) : Prop where
  noFloat : hasFloat value = false
  noSurrogate : ¬ HasSurrogate value
  calls_le : callsOf value ≤ interpreter.frames
  nesting_le : nesting value ≤ interpreter.dumpsDepth

mutual

theorem validate_eq_ok : ∀ (value : Value) {frames : Nat},
    validate frames value = .ok () ↔ hasFloat value = false ∧ callsOf value ≤ frames
  | .null, 0 | .boolean _, 0 | .integer _, 0 | .text _, 0 => by simp [validate, callsOf]
  | .null, n + 1 | .boolean _, n + 1 | .integer _, n + 1 | .text _, n + 1 => by
    simp [validate, hasFloat, callsOf]
  | .float, 0 => by simp [validate, hasFloat]
  | .float, n + 1 => by
    by_cases hn : n = 0 <;> simp [validate, hasFloat, hn]
  | .array items, 0 => by simp [validate, callsOf]
  | .array items, n + 1 => by
    rw [validate, validateItems_eq_ok items, hasFloat, callsOf]
    simp
  | .object fields, 0 => by simp [validate, callsOf]
  | .object fields, n + 1 => by
    by_cases hn : n = 0
    · subst hn
      simp [validate, callsOf]
    · have hcalls : max 1 (callsOfFields fields) + 1 ≤ n + 1 ↔ callsOfFields fields ≤ n := by omega
      rw [validate, if_neg hn, validateFields_eq_ok fields, hasFloat, callsOf, hcalls]

theorem validateItems_eq_ok : ∀ (items : List Value) {frames : Nat},
    validateItems frames items = .ok () ↔
      hasFloatItems items = false ∧ callsOfItems items ≤ frames
  | [], _ => by simp [validateItems, hasFloatItems, callsOfItems]
  | item :: items, frames => by
    rw [validateItems, check_bind_eq_ok, validate_eq_ok item, validateItems_eq_ok items,
      hasFloatItems, callsOfItems, Bool.or_eq_false_iff, max_le_iff]
    tauto

theorem validateFields_eq_ok : ∀ (fields : List (Points × Value)) {frames : Nat},
    validateFields frames fields = .ok () ↔
      hasFloatFields fields = false ∧ callsOfFields fields ≤ frames
  | [], _ => by simp [validateFields, hasFloatFields, callsOfFields]
  | (key, value) :: fields, frames => by
    rw [validateFields, check_bind_eq_ok, validate_eq_ok value, validateFields_eq_ok fields,
      hasFloatFields, callsOfFields, Bool.or_eq_false_iff, max_le_iff]
    tauto

end

theorem exists_encodePoint {c : Nat} : (∃ bytes, encodePoint c = .ok bytes) ↔ ¬ isSurrogate c := by
  rw [encodePoint]
  split_ifs <;> simp_all

/-- UTF-8 has no bytes for half of a surrogate pair. -/
theorem exists_encodeUtf8 {cs : Points} :
    (∃ bytes, encodeUtf8 cs = .ok bytes) ↔ ¬ ∃ c ∈ cs, isSurrogate c := by
  constructor
  · rintro ⟨bytes, h⟩ ⟨c, hc, hsurrogate⟩
    obtain ⟨encoded, hencoded, -⟩ := map_eq_ok.mp h
    obtain ⟨one, -, hone⟩ := ok_of_mem_mapM hencoded hc
    exact exists_encodePoint.mp ⟨one, hone⟩ hsurrogate
  · intro hclean
    obtain ⟨encoded, hencoded⟩ := exists_mapM_ok fun c hc =>
      exists_encodePoint.mpr fun hsurrogate => hclean ⟨c, hc, hsurrogate⟩
    exact ⟨encoded.flatten, by rw [encodeUtf8, hencoded]; rfl⟩

/-- What a value is encoded as, when nothing raises. -/
theorem canonicalJsonBytes_eq_ok {interpreter : Interpreter} {value : Value} {bytes : List UInt8} :
    canonicalJsonBytes interpreter value = .ok bytes ↔
      (hasFloat value = false ∧ callsOf value ≤ interpreter.frames) ∧
        nesting value ≤ interpreter.dumpsDepth ∧ encodeUtf8 (write value) = .ok bytes := by
  rw [canonicalJsonBytes, check_bind_eq_ok, validate_eq_ok, dumps]
  refine and_congr_right fun _ => ?_
  by_cases hdeep : interpreter.dumpsDepth < nesting value
  · rw [if_pos hdeep]
    exact iff_of_false (fun h => by cases h) fun h => absurd hdeep (not_lt.mpr h.1)
  · rw [if_neg hdeep, ok_bind]
    exact (and_iff_right (not_lt.mp hdeep)).symm

/-- **Which values have an encoding.** -/
theorem exists_canonicalJsonBytes {interpreter : Interpreter} {value : Value} :
    (∃ bytes, canonicalJsonBytes interpreter value = .ok bytes) ↔
      Encodable interpreter value := by
  have hsurrogate : (∃ c ∈ write value, isSurrogate c) ↔ HasSurrogate value := by
    constructor
    · rintro ⟨c, hc, hlow⟩
      obtain ⟨s, hs, hmem⟩ := (mem_write (by rw [isSurrogate] at hlow; omega) value).mp hc
      exact ⟨s, hs, c, hmem, hlow⟩
    · rintro ⟨s, hs, c, hmem, hlow⟩
      exact ⟨c, (mem_write (by rw [isSurrogate] at hlow; omega) value).mpr ⟨s, hs, hmem⟩, hlow⟩
  simp only [canonicalJsonBytes_eq_ok, exists_and_left, exists_encodeUtf8, hsurrogate]
  constructor
  · rintro ⟨⟨hfloat, hcalls⟩, hnesting, hclean⟩
    exact ⟨hfloat, hclean, hcalls, hnesting⟩
  · rintro ⟨hfloat, hclean, hcalls, hnesting⟩
    exact ⟨⟨hfloat, hcalls⟩, hnesting, hclean⟩

/-- The order in which a dictionary has its entries is not part of its text. -/
theorem write_object_perm {fields fields' : List (Points × Value)}
    (hnodup : (fields.map Prod.fst).Nodup) (h : fields.Perm fields') :
    write (.object fields) = write (.object fields') := by
  have hwritten : (writeFields fields).Perm (writeFields fields') := by
    rw [writeFields_eq, writeFields_eq]
    exact h.map _
  have hkeys : ((writeFields fields).map Prod.fst).Nodup := by
    rwa [writeFields_eq, List.map_map]
  have hsorted : (writeFields fields).insertionSort keyOrder =
      (writeFields fields').insertionSort keyOrder := by
    refine (((List.perm_insertionSort keyOrder _).trans hwritten).trans
      (List.perm_insertionSort keyOrder _).symm).eq_of_pairwise ?_
      (List.pairwise_insertionSort keyOrder _) (List.pairwise_insertionSort keyOrder _)
    intro left right hleft hright hle hge
    rw [List.mem_insertionSort] at hleft hright
    exact List.inj_on_of_nodup_map hkeys hleft (hwritten.mem_iff.mpr hright) (le_antisymm hle hge)
  rw [write, write, hsorted]

end OnchainBacktest
