import Mathlib.Data.List.Lex
import Mathlib.Data.List.Sort
import Mathlib.Tactic
import OnchainBacktest.Lib.Checked

/-!
# The `json` module on arbitrary bytes

What `json.loads` makes of any byte string and `json.dumps` of what was read.  A text is a list of
code points, since Python's strings also hold the halves of surrogate pairs.  Whoever reads bytes
meets three encodings, with or without a byte order mark, numbers that are floats, numbers with too
many digits, keys that repeat, and texts nested deeper than the interpreter goes.

The loops of the reader are given rounds, one more than the text has characters.  `mem_write` says
which characters beyond ASCII a text holds.
-/

set_option autoImplicit false

namespace PythonJson

open Checked

/-! ## Values -/

/-- The code points of a Python string. -/
abbrev Points := List Nat

/-- The code points of a literal. -/
def points (s : String) : Points := s.toList.map Char.toNat

/-- What a JSON text is read as.  Nothing reads the value of a float. -/
inductive Value
  | null
  | boolean (value : Bool)
  | integer (value : Int)
  | float
  | text (value : Points)
  | array (items : List Value)
  | object (fields : List (Points × Value))

/-- What `json.loads` raises: `ValueError` or `RecursionError`. -/
inductive LoadsFault
  | value
  | recursion
  deriving DecidableEq

/-- What the canonical encoding raises: `TypeError`, `RecursionError` or `UnicodeEncodeError`. -/
inductive EncodeFault
  | type
  | recursion
  | unicodeEncode
  deriving DecidableEq

/-! ## Bytes -/

def isHigh (point : Nat) : Prop := 0xd800 ≤ point ∧ point ≤ 0xdbff

def isLow (point : Nat) : Prop := 0xdc00 ≤ point ∧ point ≤ 0xdfff

/-- Half of a surrogate pair. -/
def isSurrogate (point : Nat) : Prop := 0xd800 ≤ point ∧ point ≤ 0xdfff

instance decidableIsHigh (point : Nat) : Decidable (isHigh point) := by
  unfold isHigh
  infer_instance

instance decidableIsLow (point : Nat) : Decidable (isLow point) := by
  unfold isLow
  infer_instance

instance decidableIsSurrogate (point : Nat) : Decidable (isSurrogate point) := by
  unfold isSurrogate
  infer_instance

/-- The code point of a surrogate pair. -/
def joinPair (high low : Nat) : Nat := 0x10000 + 0x400 * (high - 0xd800) + (low - 0xdc00)

/-- The six bits of a byte that goes on with a character. -/
def tailBits (b : UInt8) : Option Nat :=
  if 0x80 ≤ b.toNat ∧ b.toNat < 0xc0 then some (b.toNat - 0x80) else none

/-- UTF-8, halves of surrogate pairs included (`surrogatepass`). -/
def decodeUtf8 : List UInt8 → Option Points
  | [] => some []
  | [b0] => if b0.toNat < 0x80 then some [b0.toNat] else none
  | b0 :: b1 :: rest =>
    if b0.toNat < 0x80 then (decodeUtf8 (b1 :: rest)).map (b0.toNat :: ·)
    else if b0.toNat < 0xc2 then none
    else if b0.toNat < 0xe0 then do
      let t1 ← tailBits b1
      let more ← decodeUtf8 rest
      some ((0x40 * (b0.toNat - 0xc0) + t1) :: more)
    else
      match rest with
      | [] => none
      | b2 :: rest =>
        if b0.toNat < 0xf0 then do
          let t1 ← tailBits b1
          let t2 ← tailBits b2
          let point := 0x1000 * (b0.toNat - 0xe0) + 0x40 * t1 + t2
          let more ← decodeUtf8 rest
          if 0x800 ≤ point then some (point :: more) else none
        else
          match rest with
          | [] => none
          | b3 :: rest => do
            let t1 ← tailBits b1
            let t2 ← tailBits b2
            let t3 ← tailBits b3
            let point := 0x40000 * (b0.toNat - 0xf0) + 0x1000 * t1 + 0x40 * t2 + t3
            let more ← decodeUtf8 rest
            if 0x10000 ≤ point ∧ point ≤ 0x10ffff then some (point :: more) else none

/-- The units of two bytes. -/
def units16 (bigEndian : Bool) : List UInt8 → Option (List Nat)
  | [] => some []
  | [_] => none
  | b0 :: b1 :: rest =>
    (units16 bigEndian rest).map fun more =>
      (if bigEndian then 0x100 * b0.toNat + b1.toNat else b0.toNat + 0x100 * b1.toNat) :: more

/-- The code points of units of two bytes. -/
def joinPairs : List Nat → Points
  | [] => []
  | [unit] => [unit]
  | unit :: next :: rest =>
    if isHigh unit ∧ isLow next then joinPair unit next :: joinPairs rest
    else unit :: joinPairs (next :: rest)

def decodeUtf16 (bigEndian : Bool) (bytes : List UInt8) : Option Points :=
  (units16 bigEndian bytes).map joinPairs

def decodeUtf32 (bigEndian : Bool) : List UInt8 → Option Points
  | [] => some []
  | b0 :: b1 :: b2 :: b3 :: rest => do
    let point :=
      if bigEndian then
        0x1000000 * b0.toNat + 0x10000 * b1.toNat + 0x100 * b2.toNat + b3.toNat
      else b0.toNat + 0x100 * b1.toNat + 0x10000 * b2.toNat + 0x1000000 * b3.toNat
    let more ← decodeUtf32 bigEndian rest
    if point ≤ 0x10ffff then some (point :: more) else none
  | _ => none

/-- `s.decode(detect_encoding(s), 'surrogatepass')`. -/
def decodeBytes (bytes : List UInt8) : Option Points :=
  if [0x00, 0x00, 0xfe, 0xff].isPrefixOf bytes then decodeUtf32 true (bytes.drop 4)
  else if [0xff, 0xfe, 0x00, 0x00].isPrefixOf bytes then decodeUtf32 false (bytes.drop 4)
  else if [0xfe, 0xff].isPrefixOf bytes then decodeUtf16 true (bytes.drop 2)
  else if [0xff, 0xfe].isPrefixOf bytes then decodeUtf16 false (bytes.drop 2)
  else if [0xef, 0xbb, 0xbf].isPrefixOf bytes then decodeUtf8 (bytes.drop 3)
  else
    match bytes with
    | [b0, b1] =>
      if b0 = 0 then decodeUtf16 true bytes
      else if b1 = 0 then decodeUtf16 false bytes
      else decodeUtf8 bytes
    | b0 :: b1 :: b2 :: b3 :: _ =>
      if b0 = 0 then if b1 ≠ 0 then decodeUtf16 true bytes else decodeUtf32 true bytes
      else if b1 = 0 then
        if b2 ≠ 0 ∨ b3 ≠ 0 then decodeUtf16 false bytes else decodeUtf32 false bytes
      else decodeUtf8 bytes
    | _ => decodeUtf8 bytes

/-! ## Reading -/

def isBlank (c : Nat) : Bool := c == 32 || c == 9 || c == 10 || c == 13

/-- Pass over blanks. -/
def skip (cs : Points) : Points := cs.dropWhile isBlank

/-- What follows a character, if the text starts with it. -/
def expect (c : Char) : Points → Option Points
  | [] => none
  | d :: rest => if d = c.toNat then some rest else none

/-- What follows a word, if the text starts with it. -/
def expectWord (word : String) (cs : Points) : Option Points :=
  if (points word).isPrefixOf cs then some (cs.drop (points word).length) else none

/-- The words that are values. -/
def keyword (cs : Points) : Option (Value × Points) :=
  [("null", Value.null), ("true", .boolean true), ("false", .boolean false), ("NaN", .float),
    ("Infinity", .float), ("-Infinity", .float)].findSome? fun (word, value) =>
      (expectWord word cs).map fun rest => (value, rest)

def isDigit (c : Nat) : Bool := 48 ≤ c && c ≤ 57

/-- The digits before a point: a zero, or digits that do not start with one. -/
def integerDigits : Points → Option (Points × Points)
  | [] => none
  | c :: rest =>
    if c = 48 then some ([c], rest)
    else if isDigit c then some ((c :: rest).takeWhile isDigit, (c :: rest).dropWhile isDigit)
    else none

/-- What follows at least one digit. -/
def afterDigits (cs : Points) : Option Points :=
  if cs.takeWhile isDigit = [] then none else some (cs.dropWhile isDigit)

/-- What follows a fraction. -/
def fraction (cs : Points) : Option Points := (expect '.' cs).bind afterDigits

/-- What follows an exponent. -/
def exponent (cs : Points) : Option Points :=
  ((expect 'e' cs).or (expect 'E' cs)).bind fun signed =>
    afterDigits (((expect '+' signed).or (expect '-' signed)).getD signed)

/-- `sys.get_int_max_str_digits()`. -/
def INT_MAX_STR_DIGITS : Nat := 4300

/-- The number of some digits. -/
def ofDigits (digits : Points) : Nat := digits.foldl (fun n d => 10 * n + (d - 48)) 0

/-- A number: one with a fraction or an exponent is a float, and `int` refuses too many digits. -/
def number (cs : Points) : Except LoadsFault (Value × Points) :=
  match integerDigits ((expect '-' cs).getD cs) with
  | none => .error .value
  | some (digits, rest) =>
    let fractional := fraction rest
    let exponential := exponent (fractional.getD rest)
    if fractional.isSome ∨ exponential.isSome then
      .ok (.float, exponential.getD (fractional.getD rest))
    else if INT_MAX_STR_DIGITS < digits.length then .error .value
    else
      .ok (.integer (if (expect '-' cs).isSome then -(ofDigits digits : Int) else ofDigits digits),
        rest)

/-- The value of a hexadecimal digit, of either case. -/
def hexValue (c : Nat) : Option Nat :=
  if isDigit c then some (c - 48)
  else if 97 ≤ c ∧ c ≤ 102 then some (c - 87)
  else if 65 ≤ c ∧ c ≤ 70 then some (c - 55)
  else none

/-- Four hexadecimal digits. -/
def fourHex : Points → Option (Nat × Points)
  | a :: b :: c :: d :: rest => do
    let a ← hexValue a
    let b ← hexValue b
    let c ← hexValue c
    let d ← hexValue d
    some (4096 * a + 256 * b + 16 * c + d, rest)
  | _ => none

/-- What four digits after `\u` stand for, with the second half of a surrogate pair when that
follows.  A half on its own is kept. -/
def unicodeEscape (cs : Points) : Option (Nat × Points) := do
  let (point, rest) ← fourHex cs
  match (expectWord "\\u" rest).bind fourHex with
  | none => some (point, rest)
  | some (low, after) =>
    if isHigh point ∧ isLow low then some (joinPair point low, after) else some (point, rest)

/-- The escapes of one character. -/
def simpleEscape (c : Nat) : Option Nat :=
  [(34, 34), (92, 92), (47, 47), (98, 8), (102, 12), (110, 10), (114, 13), (116, 9)].lookup c

/-- What follows a backslash. -/
def escaped : Points → Option (Nat × Points)
  | [] => none
  | c :: rest => if c = 117 then unicodeEscape rest else (simpleEscape c).map fun d => (d, rest)

/-- The characters of a string, after its opening quote. -/
def characters : Nat → Points → Option (Points × Points)
  | 0, _ => none
  | _ + 1, [] => none
  | rounds + 1, c :: rest =>
    if c = 34 then some ([], rest)
    else if c = 92 then do
      let (d, rest) ← escaped rest
      let (more, rest) ← characters rounds rest
      some (d :: more, rest)
    else if c < 32 then none
    else do
      let (more, rest) ← characters rounds rest
      some (c :: more, rest)

/-- A string, after its opening quote. -/
def string (rounds : Nat) (cs : Points) : Except LoadsFault (Points × Points) :=
  match characters rounds cs with
  | none => .error .value
  | some read => .ok read

/-- Set a key of a dictionary, where it stands when it is there. -/
def setField (key : Points) (value : Value) : List (Points × Value) → List (Points × Value)
  | [] => [(key, value)]
  | field :: fields =>
    if field.1 = key then (key, value) :: fields else field :: setField key value fields

/-- The dictionary of some entries: the last entry of a key counts. -/
def dictionary (entries : List (Points × Value)) : List (Points × Value) :=
  entries.foldl (fun fields entry => setField entry.1 entry.2 fields) []

/-- What follows an item: the closing character, or a comma and the next item. -/
def separator (close : Char) (cs : Points) : Except LoadsFault (Bool × Points) :=
  match expect close (skip cs) with
  | some rest => .ok (true, rest)
  | none =>
    match expect ',' (skip cs) with
    | some rest => .ok (false, skip rest)
    | none => .error .value

/-- The items of a list, each `read`, up to the closing character. -/
def sequence {α : Type} (read : Points → Except LoadsFault (α × Points)) (close : Char) :
    Nat → Points → Except LoadsFault (List α × Points)
  | 0, _ => .error .value
  | rounds + 1, cs => do
    let (item, rest) ← read cs
    let (closed, rest) ← separator close rest
    if closed then .ok ([item], rest)
    else do
      let (items, rest) ← sequence read close rounds rest
      .ok (item :: items, rest)

/-- The items of a container, after its opening character. -/
def container {α : Type} (read : Points → Except LoadsFault (α × Points)) (close : Char)
    (rounds : Nat) (cs : Points) : Except LoadsFault (List α × Points) :=
  match expect close (skip cs) with
  | some rest => .ok ([], rest)
  | none => sequence read close rounds (skip cs)

/-- An entry of an object. -/
def member (read : Points → Except LoadsFault (Value × Points)) (rounds : Nat) (cs : Points) :
    Except LoadsFault ((Points × Value) × Points) :=
  match expect '\"' cs with
  | none => .error .value
  | some rest => do
    let (key, rest) ← string rounds rest
    match expect ':' (skip rest) with
    | none => .error .value
    | some rest => do
      let (value, rest) ← read (skip rest)
      .ok ((key, value), rest)

/-- A value that is no container. -/
def atom (rounds : Nat) (cs : Points) : Except LoadsFault (Value × Points) :=
  match expect '\"' cs with
  | some rest => do
    let (value, rest) ← string rounds rest
    .ok (.text value, rest)
  | none =>
    match keyword cs with
    | some read => .ok read
    | none => number cs

/-- `scan_once`: a value at the start of a text, with so many containers still to enter. -/
def scan (rounds : Nat) : Nat → Points → Except LoadsFault (Value × Points)
  | 0, cs =>
    if (expect '\x7b' cs).isSome ∨ (expect '[' cs).isSome then .error .recursion
    else atom rounds cs
  | depth + 1, cs =>
    match expect '\x7b' cs with
    | some rest => do
      let (entries, rest) ← container (member (scan rounds depth) rounds) '\x7d' rounds rest
      .ok (.object (dictionary entries), rest)
    | none =>
      match expect '[' cs with
      | some rest => do
        let (items, rest) ← container (scan rounds depth) ']' rounds rest
        .ok (.array items, rest)
      | none => atom rounds cs

/-- `json.loads`, where so many containers can be entered. -/
def loads (depth : Nat) (payload : List UInt8) : Except LoadsFault Value :=
  match decodeBytes payload with
  | none => .error .value
  | some cs => do
    let (value, rest) ← scan (cs.length + 1) depth (skip cs)
    if skip rest = [] then .ok value else .error .value

/-! ## Keys -/

/-- Setting a key keeps the keys distinct. -/
theorem nodup_setField {fields : List (Points × Value)} (h : (fields.map Prod.fst).Nodup)
    (key : Points) (value : Value) : ((setField key value fields).map Prod.fst).Nodup ∧
      ∀ k ∈ (setField key value fields).map Prod.fst, k = key ∨ k ∈ fields.map Prod.fst := by
  induction fields with
  | nil => simp [setField]
  | cons field fields ih =>
    obtain ⟨hfresh, hnodup⟩ := List.nodup_cons.mp h
    rw [setField]
    split
    · rename_i hsame
      subst hsame
      exact ⟨h, fun k hk => .inr hk⟩
    · rename_i hne
      obtain ⟨hset, hkeys⟩ := ih hnodup
      refine ⟨List.nodup_cons.mpr ⟨fun hmem => ?_, hset⟩, fun k hk => ?_⟩
      · rcases hkeys _ hmem with heq | hmem
        · exact hne heq
        · exact hfresh hmem
      · rcases List.mem_cons.mp hk with rfl | hk
        · exact .inr List.mem_cons_self
        · exact (hkeys k hk).imp_right (List.mem_cons_of_mem _)

/-- The keys of a dictionary are distinct. -/
theorem nodup_dictionary (entries : List (Points × Value)) :
    ((dictionary entries).map Prod.fst).Nodup := by
  have hfold : ∀ fields : List (Points × Value), (fields.map Prod.fst).Nodup →
      ((entries.foldl (fun fields entry => setField entry.1 entry.2 fields) fields).map
        Prod.fst).Nodup := by
    induction entries with
    | nil => exact fun fields h => h
    | cons entry entries ih => exact fun fields h => ih _ (nodup_setField h entry.1 entry.2).1
  exact hfold [] List.nodup_nil

theorem atom_ne_object {rounds : Nat} {cs rest : Points} {fields : List (Points × Value)} :
    atom rounds cs ≠ .ok (.object fields, rest) := by
  intro h
  rw [atom] at h
  split at h
  · obtain ⟨⟨s, last⟩, -, h⟩ := bind_eq_ok.mp h
    cases h
  · split at h
    · rename_i read hread
      obtain ⟨⟨word, value⟩, hmem, hword⟩ := List.exists_of_findSome?_eq_some hread
      obtain ⟨after, -, hpair⟩ := Option.map_eq_some_iff.mp hword
      rw [← hpair] at h
      obtain ⟨rfl, -⟩ := Prod.mk.inj (Except.ok.inj h)
      simp at hmem
    · rw [number] at h
      split at h
      · cases h
      · dsimp only at h
        split_ifs at h <;> cases h

/-- The keys of an object that is read are distinct. -/
theorem nodup_of_scan {rounds depth : Nat} {cs rest : Points} {fields : List (Points × Value)}
    (h : scan rounds depth cs = .ok (.object fields, rest)) : (fields.map Prod.fst).Nodup := by
  cases depth with
  | zero =>
    rw [scan] at h
    split at h
    · cases h
    · exact absurd h atom_ne_object
  | succ depth =>
    rw [scan] at h
    split at h
    · obtain ⟨⟨entries, last⟩, -, h⟩ := bind_eq_ok.mp h
      cases h
      exact nodup_dictionary entries
    · split at h
      · obtain ⟨⟨items, last⟩, -, h⟩ := bind_eq_ok.mp h
        cases h
      · exact absurd h atom_ne_object

theorem nodup_of_loads {depth : Nat} {payload : List UInt8} {fields : List (Points × Value)}
    (h : loads depth payload = .ok (.object fields)) : (fields.map Prod.fst).Nodup := by
  rw [loads] at h
  split at h
  · cases h
  · obtain ⟨⟨value, rest⟩, hscan, h⟩ := bind_eq_ok.mp h
    dsimp only at h
    split at h
    · cases h
      exact nodup_of_scan hscan
    · cases h

/-! ## Writing -/

/-- A digit of a hexadecimal escape. -/
def hexPoint (n : Nat) : Nat := (Nat.digitChar n).toNat

/-- How one character stands in a JSON string. -/
def escape (c : Nat) : Points :=
  if c = 34 then [92, 34]
  else if c = 92 then [92, 92]
  else if c = 10 then [92, 110]
  else if c = 13 then [92, 114]
  else if c = 9 then [92, 116]
  else if c = 12 then [92, 102]
  else if c = 8 then [92, 98]
  else if c < 32 then [92, 117, 48, 48, hexPoint (c / 16), hexPoint (c % 16)]
  else [c]

/-- A JSON string, with its quotes. -/
def quoted (s : Points) : Points := 34 :: (s.flatMap escape ++ [34])

/-- The texts of a sequence, a comma between every two. -/
def joined : List Points → Points
  | [] => []
  | [one] => one
  | one :: more => one ++ 44 :: joined more

/-- The order of keys. -/
def keyOrder (left right : Points × Points) : Prop := left.1 ≤ right.1

instance decidableKeyOrder : DecidableRel keyOrder := by
  intro left right
  unfold keyOrder
  infer_instance

mutual

/-- The text of `json.dumps` with sorted keys, no blanks and no escapes that are not needed. -/
def write : Value → Points
  | .null => points "null"
  | .boolean true => points "true"
  | .boolean false => points "false"
  | .integer n => points (toString n)
  | .float => [] -- never written: a document with a float is refused before
  | .text s => quoted s
  | .array items => 91 :: (joined (writeItems items) ++ [93])
  | .object fields =>
    123 :: (joined (((writeFields fields).insertionSort keyOrder).map fun field =>
      quoted field.1 ++ 58 :: field.2) ++ [125])

def writeItems : List Value → List Points
  | [] => []
  | item :: items => write item :: writeItems items

def writeFields : List (Points × Value) → List (Points × Points)
  | [] => []
  | (key, value) :: fields => (key, write value) :: writeFields fields

end

mutual

/-- How many containers are entered one inside the other. -/
def nesting : Value → Nat
  | .array items => nestingItems items + 1
  | .object fields => nestingFields fields + 1
  | _ => 0

def nestingItems : List Value → Nat
  | [] => 0
  | item :: items => max (nesting item) (nestingItems items)

def nestingFields : List (Points × Value) → Nat
  | [] => 0
  | (_, value) :: fields => max (nesting value) (nestingFields fields)

end

/-- `.encode("utf-8")` of one character. -/
def encodePoint (c : Nat) : Except EncodeFault (List UInt8) :=
  if isSurrogate c then .error .unicodeEncode
  else if c < 0x80 then .ok [UInt8.ofNat c]
  else if c < 0x800 then .ok [UInt8.ofNat (0xc0 + c / 0x40), UInt8.ofNat (0x80 + c % 0x40)]
  else if c < 0x10000 then
    .ok [UInt8.ofNat (0xe0 + c / 0x1000), UInt8.ofNat (0x80 + c / 0x40 % 0x40),
      UInt8.ofNat (0x80 + c % 0x40)]
  else
    .ok [UInt8.ofNat (0xf0 + c / 0x40000), UInt8.ofNat (0x80 + c / 0x1000 % 0x40),
      UInt8.ofNat (0x80 + c / 0x40 % 0x40), UInt8.ofNat (0x80 + c % 0x40)]

def encodeUtf8 (cs : Points) : Except EncodeFault (List UInt8) :=
  (cs.mapM encodePoint).map List.flatten

/-- `json.dumps`, where so many containers can be entered. -/
def dumps (depth : Nat) (value : Value) : Except EncodeFault Points :=
  if depth < nesting value then .error .recursion else .ok (write value)

mutual

/-- The strings of a value, its keys among them. -/
def texts : Value → List Points
  | .text s => [s]
  | .array items => textsItems items
  | .object fields => textsFields fields
  | _ => []

def textsItems : List Value → List Points
  | [] => []
  | item :: items => texts item ++ textsItems items

def textsFields : List (Points × Value) → List Points
  | [] => []
  | (key, value) :: fields => key :: (texts value ++ textsFields fields)

end

theorem writeFields_eq (fields : List (Points × Value)) :
    writeFields fields = fields.map fun field => (field.1, write field.2) := by
  induction fields with
  | nil => rfl
  | cons field fields ih =>
    obtain ⟨key, value⟩ := field
    rw [writeFields, ih, List.map_cons]

/-- Keys are in a total order. -/
instance total_keyOrder : Std.Total keyOrder := ⟨fun left right => le_total left.1 right.1⟩

instance trans_keyOrder : IsTrans (Points × Points) keyOrder := ⟨fun _ _ _ => le_trans⟩

/-! ## Characters beyond ASCII -/

theorem joined_cons (one : Points) {more : List Points} (h : more ≠ []) :
    joined (one :: more) = one ++ 44 :: joined more := by
  cases more with
  | nil => exact absurd rfl h
  | cons two more => rfl

theorem mem_joined {texts : List Points} {c : Nat} (h : c ∈ joined texts) :
    c = 44 ∨ ∃ text ∈ texts, c ∈ text := by
  induction texts with
  | nil => cases h
  | cons one more ih =>
    by_cases hlast : more = []
    · subst hlast
      exact .inr ⟨one, List.mem_cons_self, h⟩
    · rw [joined_cons one hlast, List.mem_append, List.mem_cons] at h
      rcases h with hone | hcomma | hmore
      · exact .inr ⟨one, List.mem_cons_self, hone⟩
      · exact .inl hcomma
      · refine (ih hmore).imp_right ?_
        rintro ⟨text, htext, hc⟩
        exact ⟨text, List.mem_cons_of_mem _ htext, hc⟩

theorem mem_joined_of_mem {parts : List Points} {part : Points} {c : Nat} (h : part ∈ parts)
    (hc : c ∈ part) : c ∈ joined parts := by
  induction parts with
  | nil => cases h
  | cons one more ih =>
    rcases List.mem_cons.mp h with rfl | hmem
    · cases more with
      | nil => exact hc
      | cons two more => exact List.mem_append_left _ hc
    · cases more with
      | nil => cases hmem
      | cons two more => exact List.mem_append_right _ (List.mem_cons_of_mem _ (ih hmem))

theorem mem_joined_iff {parts : List Points} {c : Nat} (h : c ≠ 44) :
    c ∈ joined parts ↔ ∃ part ∈ parts, c ∈ part := by
  constructor
  · exact fun hc => (mem_joined hc).resolve_left h
  · rintro ⟨part, hpart, hc⟩
    exact mem_joined_of_mem hpart hc

theorem mem_escape {c d : Nat} (h : 128 ≤ c) : c ∈ escape d ↔ c = d := by
  have hhex : ∀ n, n < 32 → hexPoint (n / 16) < 128 ∧ hexPoint (n % 16) < 128 := by decide
  by_cases hd : 32 ≤ d ∧ d ≠ 34 ∧ d ≠ 92
  · have hself : escape d = [d] := by
      rw [escape, if_neg hd.2.1, if_neg hd.2.2]
      repeat rw [if_neg (by omega)]
    rw [hself, List.mem_singleton]
  · refine iff_of_false (fun hmem => ?_) (by omega)
    have hlow : ∀ e ∈ escape d, e < 128 := by
      by_cases hcontrol : d < 32
      · intro e he
        obtain ⟨hhigh, hlow⟩ := hhex d hcontrol
        rw [escape] at he
        split_ifs at he <;> simp at he <;> omega
      · have heq : d = 34 ∨ d = 92 := by omega
        rcases heq with rfl | rfl <;> decide
    exact absurd (hlow c hmem) (by omega)

theorem mem_quoted {c : Nat} {s : Points} (h : 128 ≤ c) : c ∈ quoted s ↔ c ∈ s := by
  rw [quoted, List.mem_cons, List.mem_append, List.mem_flatMap, List.mem_singleton]
  simp only [mem_escape h]
  constructor
  · rintro (rfl | ⟨d, hd, rfl⟩ | rfl)
    · omega
    · exact hd
    · omega
  · exact fun hc => .inr (.inl ⟨c, hc, rfl⟩)

theorem ascii_toString (n : Int) : ∀ c ∈ points (toString n), c < 128 := by
  have hdigits : ∀ m : Nat, ∀ c ∈ (Nat.toDigits 10 m).map Char.toNat, c < 128 := by
    intro m c hc
    obtain ⟨d, hd, rfl⟩ := List.mem_map.mp hc
    have hdigit := Nat.isDigit_of_mem_toDigits (by decide) (by decide) hd
    rw [Char.isDigit, Bool.and_eq_true, decide_eq_true_eq, decide_eq_true_eq] at hdigit
    have hle : d.toNat ≤ 57 := UInt32.le_iff_toNat_le.mp hdigit.2
    omega
  intro c hc
  cases n with
  | ofNat n =>
    rw [points, show (toString (Int.ofNat n)).toList = Nat.toDigits 10 n from Nat.toList_repr] at hc
    exact hdigits n c hc
  | negSucc n =>
    have htext : (toString (Int.negSucc n)).toList = '-' :: Nat.toDigits 10 (n + 1) := by
      rw [show toString (Int.negSucc n) = "-" ++ Nat.repr (n + 1) from rfl, String.toList_append,
        Nat.toList_repr]
      rfl
    rw [points, htext, List.map_cons, List.mem_cons] at hc
    rcases hc with rfl | hc
    · decide
    · exact hdigits (n + 1) c hc

theorem ascii_word {word : String} {c : Nat} (h : 128 ≤ c)
    (hword : ∀ d ∈ points word, d < 128) : c ∉ points word :=
  fun hc => absurd (hword c hc) (by omega)

mutual

/-- A character beyond ASCII is written where it stands in a string, and nowhere else. -/
theorem mem_write {c : Nat} (h : 128 ≤ c) : ∀ value : Value,
    c ∈ write value ↔ ∃ s ∈ texts value, c ∈ s
  | .null => by simp [write, texts, ascii_word h (show ∀ d ∈ points "null", d < 128 by decide)]
  | .boolean true => by
    simp [write, texts, ascii_word h (show ∀ d ∈ points "true", d < 128 by decide)]
  | .boolean false => by
    simp [write, texts, ascii_word h (show ∀ d ∈ points "false", d < 128 by decide)]
  | .integer n => by
    rw [write, iff_false_intro (ascii_word h (ascii_toString n))]
    simp [texts]
  | .float => by simp [write, texts]
  | .text s => by simp [write, texts, mem_quoted h]
  | .array items => by
    rw [write, texts, List.mem_cons, List.mem_append, List.mem_singleton,
      or_iff_right (by omega), or_iff_left (by omega)]
    exact mem_writeItems h items
  | .object fields => by
    rw [write, texts, List.mem_cons, List.mem_append, List.mem_singleton,
      or_iff_right (by omega), or_iff_left (by omega), ← mem_writeFields h fields,
      mem_joined_iff (by omega)]
    simp only [List.mem_map, List.mem_insertionSort, exists_exists_and_eq_and, List.mem_append,
      List.mem_cons, mem_quoted h]
    refine exists_congr fun field => and_congr_right fun _ => ?_
    rw [or_iff_right (show ¬ c = 58 by omega)]

theorem mem_writeItems {c : Nat} (h : 128 ≤ c) : ∀ items : List Value,
    c ∈ joined (writeItems items) ↔ ∃ s ∈ textsItems items, c ∈ s
  | [] => by simp [writeItems, joined, textsItems]
  | item :: items => by
    have hrest := mem_writeItems h items
    rw [mem_joined_iff (by omega)] at hrest ⊢
    simp only [writeItems, textsItems, List.mem_cons, List.mem_append, or_and_right, exists_or,
      exists_eq_left, hrest, mem_write h item]

theorem mem_writeFields {c : Nat} (h : 128 ≤ c) : ∀ fields : List (Points × Value),
    (∃ field ∈ writeFields fields, c ∈ field.1 ∨ c ∈ field.2) ↔ ∃ s ∈ textsFields fields, c ∈ s
  | [] => by simp [writeFields, textsFields]
  | (key, value) :: fields => by
    simp only [writeFields, textsFields, List.mem_cons, List.mem_append, or_and_right, exists_or,
      exists_eq_left, mem_writeFields h fields, mem_write h value, or_assoc]

end

end PythonJson
