import Mathlib.Data.List.TakeWhile
import Mathlib.Data.String.Basic
import Mathlib.Tactic
import OnchainBacktest.Lib.Document

/-!
# JSON texts

A document has one canonical JSON text: no blanks, keys in order, and a character escaped only
where it has to be.  `Document.write` is that text and `Document.parse` reads any JSON text, also
one with blanks, repeated keys, numbers with a fraction or escapes nobody asked for, since a
reader that accepts only canonical texts reads first and compares afterwards.

What is written is read back (`Document.parse_write`), so a text that equals the writing of what
was read from it is the writing of exactly one document.  `Document.loads` and
`Document.canonicalJsonBytes` are the same two on UTF-8 bytes.

The parser takes fuel, one more than the characters it is given: every call reads at least one.
-/

set_option autoImplicit false

namespace Checked

namespace Document

/-! ## Writing -/

/-- A digit of a hexadecimal escape. -/
def hexCharacter (n : Nat) : Char := Nat.digitChar n

/-- How one character stands in a JSON string. -/
def escape (c : Char) : List Char :=
  if c = '\"' then ['\\', '\"']
  else if c = '\\' then ['\\', '\\']
  else if c = '\n' then ['\\', 'n']
  else if c = '\r' then ['\\', 'r']
  else if c = '\t' then ['\\', 't']
  else if c = '\x0c' then ['\\', 'f']
  else if c = '\x08' then ['\\', 'b']
  else if c.toNat < 32 then
    ['\\', 'u', '0', '0', hexCharacter (c.toNat / 16), hexCharacter (c.toNat % 16)]
  else [c]

/-- A JSON string, with its quotes. -/
def quoted (s : String) : List Char := '\"' :: (s.toList.flatMap escape ++ ['\"'])

/-- The texts of a sequence, a comma between every two. -/
def joined : List (List Char) → List Char
  | [] => []
  | [one] => one
  | one :: more => one ++ ',' :: joined more

mutual

/-- The canonical text of a document.  A value that is not one of the document types has none. -/
def write : Document → Option (List Char)
  | null => some "null".toList
  | boolean true => some "true".toList
  | boolean false => some "false".toList
  | integer n => some (toString n).toList
  | text s => some (quoted s)
  | array items => do
    let texts ← writeItems items
    some ('[' :: (joined texts ++ [']']))
  | object fields => do
    let texts ← writeFields fields
    some ('\x7b' :: (joined texts ++ ['\x7d']))
  | other _ => none

def writeItems : List Document → Option (List (List Char))
  | [] => some []
  | item :: items => do
    let one ← write item
    let more ← writeItems items
    some (one :: more)

def writeFields : List (String × Document) → Option (List (List Char))
  | [] => some []
  | (key, value) :: fields => do
    let one ← write value
    let more ← writeFields fields
    some ((quoted key ++ ':' :: one) :: more)

end

/-! ## Reading -/

def isBlank (c : Char) : Bool := c == ' ' || c == '\t' || c == '\n' || c == '\r'

/-- Pass over blanks. -/
def skip (cs : List Char) : List Char := cs.dropWhile isBlank

/-- What follows a character, if the text starts with it. -/
def expect (c : Char) : List Char → Option (List Char)
  | [] => none
  | d :: rest => if d = c then some rest else none

/-- What follows a word, if the text starts with it. -/
def expectWord : List Char → List Char → Option (List Char)
  | [], cs => some cs
  | c :: word, cs => do
    let rest ← expect c cs
    expectWord word rest

/-- The words that are values.  Numbers that are not finite are read, as values of no type. -/
def keyword (cs : List Char) : Option (Document × List Char) :=
  [("null", null), ("true", boolean true), ("false", boolean false), ("NaN", other 0),
    ("Infinity", other 0), ("-Infinity", other 0)].findSome? fun (word, value) =>
      (expectWord word.toList cs).map fun rest => (value, rest)

/-- The digits before a point: a zero, or digits that do not start with one. -/
def integerPart : List Char → Option (Nat × List Char)
  | [] => none
  | c :: rest =>
    if c = '0' then some (0, rest)
    else if c.isDigit = true then
      some (((c :: rest).takeWhile Char.isDigit).foldl (fun n d => 10 * n + (d.toNat - 48)) 0,
        (c :: rest).dropWhile Char.isDigit)
    else none

/-- What follows at least one digit. -/
def afterDigits (cs : List Char) : Option (List Char) :=
  if cs.takeWhile Char.isDigit = [] then none else some (cs.dropWhile Char.isDigit)

/-- What follows a fraction. -/
def fraction (cs : List Char) : Option (List Char) := do
  let digits ← expect '.' cs
  afterDigits digits

/-- What follows an exponent. -/
def exponent (cs : List Char) : Option (List Char) := do
  let signed ← (expect 'e' cs).orElse fun _ => expect 'E' cs
  afterDigits (((expect '+' signed).orElse fun _ => expect '-' signed).getD signed)

/-- A number.  One with a fraction or an exponent is a value of no type. -/
def number (cs : List Char) : Option (Document × List Char) := do
  let (n, rest) ← integerPart ((expect '-' cs).getD cs)
  match fraction rest, exponent rest with
  | some rest, _ => some (other 0, (exponent rest).getD rest)
  | none, some rest => some (other 0, rest)
  | none, none => some (integer (if (expect '-' cs).isSome then -n else n), rest)

/-- The value of a hexadecimal digit, of either case. -/
def hexValue (c : Char) : Option Nat :=
  if c.isDigit = true then some (c.toNat - 48)
  else if 'a' ≤ c ∧ c ≤ 'f' then some (c.toNat - 87)
  else if 'A' ≤ c ∧ c ≤ 'F' then some (c.toNat - 55)
  else none

/-- Four hexadecimal digits. -/
def fourHex : List Char → Option (Nat × List Char)
  | a :: b :: c :: d :: rest => do
    let a ← hexValue a
    let b ← hexValue b
    let c ← hexValue c
    let d ← hexValue d
    some (4096 * a + 256 * b + 16 * c + d, rest)
  | _ => none

/-- What four digits after `\u` stand for, with the second half of a surrogate pair.  Half a pair
on its own stands for no character: no text that is encoded again holds one. -/
def unicodeEscape (cs : List Char) : Option (Char × List Char) := do
  let (high, rest) ← fourHex cs
  if 0xd800 ≤ high ∧ high ≤ 0xdbff then
    let digits ← expectWord ['\\', 'u'] rest
    let (low, rest) ← fourHex digits
    if 0xdc00 ≤ low ∧ low ≤ 0xdfff then
      some (Char.ofNat (0x10000 + 0x400 * (high - 0xd800) + (low - 0xdc00)), rest)
    else none
  else if 0xdc00 ≤ high ∧ high ≤ 0xdfff then none
  else some (Char.ofNat high, rest)

/-- The escapes of one character. -/
def simpleEscape (c : Char) : Option Char :=
  [('\"', '\"'), ('\\', '\\'), ('/', '/'), ('b', '\x08'), ('f', '\x0c'), ('n', '\n'), ('r', '\r'),
    ('t', '\t')].lookup c

/-- What follows a backslash. -/
def escaped : List Char → Option (Char × List Char)
  | [] => none
  | c :: rest => if c = 'u' then unicodeEscape rest else (simpleEscape c).map fun d => (d, rest)

/-- The characters of a string, after its opening quote. -/
def characters : Nat → List Char → Option (List Char × List Char)
  | 0, _ => none
  | _ + 1, [] => none
  | fuel + 1, c :: rest =>
    if c = '\"' then some ([], rest)
    else if c = '\\' then do
      let (d, rest) ← escaped rest
      let (more, rest) ← characters fuel rest
      some (d :: more, rest)
    else if c.toNat < 32 then none
    else do
      let (more, rest) ← characters fuel rest
      some (c :: more, rest)

/-- Set a field among fields that are in the order of their keys. -/
def setField (key : String) (value : Document) :
    List (String × Document) → List (String × Document)
  | [] => [(key, value)]
  | (k, v) :: fields =>
    if key < k then (key, value) :: (k, v) :: fields
    else if key = k then (key, value) :: fields
    else (k, v) :: setField key value fields

/-- The fields of a dictionary from its entries: the last entry of a key counts. -/
def fieldsOf (entries : List (String × Document)) : List (String × Document) :=
  entries.foldl (fun fields e => setField e.1 e.2 fields) []

mutual

/-- A value at the start of a text. -/
def value : Nat → List Char → Option (Document × List Char)
  | 0, _ => none
  | _ + 1, [] => none
  | fuel + 1, c :: rest =>
    if c = '\"' then do
      let (s, rest) ← characters fuel rest
      some (text (String.ofList s), rest)
    else if c = '\x7b' then
      match expect '\x7d' (skip rest) with
      | some rest => some (object [], rest)
      | none => do
        let (entries, rest) ← members fuel (skip rest)
        some (object (fieldsOf entries), rest)
    else if c = '[' then
      match expect ']' (skip rest) with
      | some rest => some (array [], rest)
      | none => do
        let (items, rest) ← elements fuel (skip rest)
        some (array items, rest)
    else (keyword (c :: rest)).orElse fun _ => number (c :: rest)

/-- The items of a list, up to its closing bracket. -/
def elements : Nat → List Char → Option (List Document × List Char)
  | 0, _ => none
  | fuel + 1, cs => do
    let (item, rest) ← value fuel cs
    match expect ']' (skip rest) with
    | some rest => some ([item], rest)
    | none => do
      let rest ← expect ',' (skip rest)
      let (items, rest) ← elements fuel (skip rest)
      some (item :: items, rest)

/-- The entries of a dictionary, up to its closing brace. -/
def members : Nat → List Char → Option (List (String × Document) × List Char)
  | 0, _ => none
  | fuel + 1, cs => do
    let rest ← expect '\"' cs
    let (key, rest) ← characters fuel rest
    let rest ← expect ':' (skip rest)
    let (item, rest) ← value fuel (skip rest)
    match expect '\x7d' (skip rest) with
    | some rest => some ([(String.ofList key, item)], rest)
    | none => do
      let rest ← expect ',' (skip rest)
      let (entries, rest) ← members fuel (skip rest)
      some ((String.ofList key, item) :: entries, rest)

end

/-- The document of a JSON text. -/
def parse (cs : List Char) : Option Document := do
  let (document, rest) ← value (cs.length + 1) (skip cs)
  if skip rest = [] then some document else none

/-! ## What is written is read back -/

@[simp] theorem expect_self (c : Char) (rest : List Char) : expect c (c :: rest) = some rest := by
  simp [expect]

theorem expect_of_ne {c d : Char} (rest : List Char) (h : d ≠ c) : expect c (d :: rest) = none := by
  simp [expect, h]

theorem skip_of_not_blank {c : Char} {rest : List Char} (h : isBlank c = false) :
    skip (c :: rest) = c :: rest := by
  simp [skip, h]

/-! ### Strings -/

/-- A control character is read back from its four digits. -/
theorem fourHex_control {n : Nat} (h : n < 32) (rest : List Char) :
    fourHex ('0' :: '0' :: hexCharacter (n / 16) :: hexCharacter (n % 16) :: rest)
      = some (n, rest) := by
  interval_cases n <;> rfl

theorem escaped_control {n : Nat} (h : n < 32) (rest : List Char) :
    escaped ('u' :: '0' :: '0' :: hexCharacter (n / 16) :: hexCharacter (n % 16) :: rest)
      = some (Char.ofNat n, rest) := by
  have hfour := fourHex_control h rest
  simp only [escaped, if_true, unicodeEscape, hfour, Option.bind_eq_bind, Option.bind_some]
  rw [if_neg (by omega), if_neg (by omega)]

/-- One character is read back from the way it is written. -/
theorem characters_escape (c : Char) (fuel : Nat) (rest : List Char) :
    characters (fuel + 1) (escape c ++ rest)
      = (characters fuel rest).map fun r => (c :: r.1, r.2) := by
  have hmap : ∀ o : Option (List Char × List Char),
      (do let (more, rest) ← o; some (c :: more, rest)) = o.map fun r => (c :: r.1, r.2) := by
    intro o
    cases o <;> rfl
  by_cases hquote : c = '\"'
  · subst hquote
    simpa [escape, characters, escaped, show simpleEscape '\"' = some '\"' from rfl] using hmap _
  by_cases hslash : c = '\\'
  · subst hslash
    simpa [escape, characters, escaped, show simpleEscape '\\' = some '\\' from rfl] using hmap _
  by_cases hn : c = '\n'
  · subst hn
    simpa [escape, characters, escaped, show simpleEscape 'n' = some '\n' from rfl] using hmap _
  by_cases hr : c = '\r'
  · subst hr
    simpa [escape, characters, escaped, show simpleEscape 'r' = some '\r' from rfl] using hmap _
  by_cases ht : c = '\t'
  · subst ht
    simpa [escape, characters, escaped, show simpleEscape 't' = some '\t' from rfl] using hmap _
  by_cases hf : c = '\x0c'
  · subst hf
    simpa [escape, characters, escaped, show simpleEscape 'f' = some '\x0c' from rfl] using hmap _
  by_cases hb : c = '\x08'
  · subst hb
    simpa [escape, characters, escaped, show simpleEscape 'b' = some '\x08' from rfl] using hmap _
  by_cases hcontrol : c.toNat < 32
  · rw [escape, if_neg hquote, if_neg hslash, if_neg hn, if_neg hr, if_neg ht, if_neg hf,
      if_neg hb, if_pos hcontrol]
    have hread := escaped_control hcontrol rest
    rw [Char.ofNat_toNat] at hread
    simp only [List.cons_append, List.nil_append, characters, hread, Option.bind_eq_bind,
      Option.bind_some, if_true, if_neg (show ¬ ('\\' : Char) = '\"' by decide)]
    exact hmap _
  · rw [escape, if_neg hquote, if_neg hslash, if_neg hn, if_neg hr, if_neg ht, if_neg hf,
      if_neg hb, if_neg hcontrol]
    simp only [List.cons_append, List.nil_append, characters, if_neg hquote, if_neg hslash,
      if_neg hcontrol]
    exact hmap _

/-- The characters of a string are read back, up to its closing quote. -/
theorem characters_write (cs rest : List Char) {fuel : Nat} (h : cs.length < fuel) :
    characters fuel (cs.flatMap escape ++ '\"' :: rest) = some (cs, rest) := by
  induction cs generalizing fuel with
  | nil =>
    obtain ⟨fuel, rfl⟩ : ∃ m, fuel = m + 1 := ⟨fuel - 1, by simp at h; omega⟩
    simp [characters]
  | cons c cs ih =>
    obtain ⟨fuel, rfl⟩ : ∃ m, fuel = m + 1 := ⟨fuel - 1, by simp at h; omega⟩
    rw [List.flatMap_cons, List.append_assoc, characters_escape,
      ih (by simp at h; omega)]
    rfl

/-! ### Numbers -/

/-- What follows a number in a text cannot go on with it. -/
def Stops (rest : List Char) : Prop :=
  ∀ c ∈ rest.head?, c.isDigit = false ∧ c ≠ '.' ∧ c ≠ 'e' ∧ c ≠ 'E'

theorem stops_nil : Stops [] := by simp [Stops]

theorem stops_cons {c : Char} {rest : List Char}
    (h : c = ',' ∨ c = ']' ∨ c = '\x7d') : Stops (c :: rest) := by
  intro d hd
  obtain rfl : c = d := by simpa using hd
  rcases h with rfl | rfl | rfl <;> decide

theorem Stops.fraction_eq_none {rest : List Char} (h : Stops rest) : fraction rest = none := by
  cases rest with
  | nil => rfl
  | cons c rest => simp [fraction, expect, (h c rfl).2.1]

theorem Stops.exponent_eq_none {rest : List Char} (h : Stops rest) : exponent rest = none := by
  cases rest with
  | nil => rfl
  | cons c rest =>
    simp [exponent, expect, (h c rfl).2.2.1, (h c rfl).2.2.2]

theorem toDigits_isDigit {n : Nat} {c : Char} (h : c ∈ Nat.toDigits 10 n) : c.isDigit = true :=
  Nat.isDigit_of_mem_toDigits (by decide) (by decide) h

/-- A positive number does not start with a zero. -/
theorem head_toDigits {n : Nat} (h : 0 < n) : ∀ c ∈ (Nat.toDigits 10 n).head?, c ≠ '0' := by
  induction n using Nat.strong_induction_on with
  | _ n ih =>
    by_cases hlt : n < 10
    · rw [Nat.toDigits_of_lt_base hlt]
      interval_cases n <;> simp [Nat.digitChar]
    · rw [Nat.toDigits_of_base_le (by decide) (by omega)]
      have hne : Nat.toDigits 10 (n / 10) ≠ [] := Nat.toDigits_ne_nil
      rw [List.head?_append_of_ne_nil _ hne]
      exact ih (n / 10) (by omega) (by omega)

/-- The digits of a number are read back as that number. -/
theorem foldl_toDigits (n : Nat) :
    (Nat.toDigits 10 n).foldl (fun n d => 10 * n + (d.toNat - 48)) 0 = n := by
  have hof := Nat.ofDigitChars_toDigits (b := 10) (n := n) (by decide) (by decide)
  rwa [Nat.ofDigitChars_eq_foldl] at hof

theorem integerPart_toDigits (n : Nat) {rest : List Char} (h : Stops rest) :
    integerPart (Nat.toDigits 10 n ++ rest) = some (n, rest) := by
  have hstop : rest.takeWhile Char.isDigit = [] ∧ rest.dropWhile Char.isDigit = rest := by
    cases rest with
    | nil => exact ⟨rfl, rfl⟩
    | cons c rest => simp [(h c rfl).1]
  by_cases hzero : n = 0
  · subst hzero
    rfl
  cases hdigits : Nat.toDigits 10 n with
  | nil => exact absurd hdigits Nat.toDigits_ne_nil
  | cons c cs =>
    have hc : c ≠ '0' := head_toDigits (Nat.pos_of_ne_zero hzero) c (by simp [hdigits])
    have hall : ∀ d ∈ c :: cs, d.isDigit = true := fun d hd => toDigits_isDigit (hdigits ▸ hd)
    have htake : (c :: (cs ++ rest)).takeWhile Char.isDigit = c :: cs := by
      rw [← List.cons_append, List.takeWhile_append_of_pos hall, hstop.1, List.append_nil]
    have hdrop : (c :: (cs ++ rest)).dropWhile Char.isDigit = rest := by
      rw [← List.cons_append, List.dropWhile_append_of_pos hall, hstop.2]
    rw [List.cons_append, integerPart, if_neg hc, if_pos (hall c (by simp)), htake, hdrop,
      ← hdigits, foldl_toDigits]

/-- What a written number starts with. -/
theorem head_integer (n : Int) (rest : List Char) :
    ∃ c cs, (toString n).toList ++ rest = c :: cs ∧ (c = '-' ∨ c.isDigit = true)
      ∧ (c = '-' → ∀ d ∈ cs.head?, d.isDigit = true) := by
  cases n with
  | ofNat n =>
    have htext : (toString (Int.ofNat n)).toList = Nat.toDigits 10 n := Nat.toList_repr
    cases hdigits : Nat.toDigits 10 n with
    | nil => exact absurd hdigits Nat.toDigits_ne_nil
    | cons c cs =>
      have hc : c.isDigit = true := toDigits_isDigit (n := n) (by simp [hdigits])
      refine ⟨c, cs ++ rest, by rw [htext, hdigits]; rfl, Or.inr hc, ?_⟩
      rintro rfl
      exact absurd hc (by decide)
  | negSucc n =>
    have htext : (toString (Int.negSucc n)).toList = '-' :: Nat.toDigits 10 (n + 1) := by
      rw [show toString (Int.negSucc n) = "-" ++ Nat.repr (n + 1) from rfl, String.toList_append,
        Nat.toList_repr]
      rfl
    cases hdigits : Nat.toDigits 10 (n + 1) with
    | nil => exact absurd hdigits Nat.toDigits_ne_nil
    | cons c cs =>
      have hc : c.isDigit = true := toDigits_isDigit (n := n + 1) (by simp [hdigits])
      refine ⟨'-', c :: (cs ++ rest), by rw [htext, hdigits]; rfl, Or.inl rfl, ?_⟩
      intro _ d hd
      obtain rfl : c = d := by simpa using hd
      exact hc

/-- A number is read back. -/
theorem number_write (n : Int) {rest : List Char} (h : Stops rest) :
    number ((toString n).toList ++ rest) = some (integer n, rest) := by
  cases n with
  | ofNat n =>
    have htext : (toString (Int.ofNat n)).toList = Nat.toDigits 10 n := Nat.toList_repr
    have hsign : expect '-' (Nat.toDigits 10 n ++ rest) = none := by
      cases hdigits : Nat.toDigits 10 n with
      | nil => exact absurd hdigits Nat.toDigits_ne_nil
      | cons c cs =>
        have hc : c.isDigit = true := toDigits_isDigit (n := n) (by simp [hdigits])
        refine expect_of_ne _ ?_
        rintro rfl
        exact absurd hc (by decide)
    rw [number, htext, hsign]
    simp [integerPart_toDigits n h, h.fraction_eq_none, h.exponent_eq_none]
  | negSucc n =>
    have htext : (toString (Int.negSucc n)).toList = '-' :: Nat.toDigits 10 (n + 1) := by
      rw [show toString (Int.negSucc n) = "-" ++ Nat.repr (n + 1) from rfl, String.toList_append,
        Nat.toList_repr]
      rfl
    rw [number, htext, List.cons_append, expect_self]
    simp [integerPart_toDigits (n + 1) h, h.fraction_eq_none, h.exponent_eq_none]
    omega

/-- No word is read where a number stands. -/
theorem keyword_number (n : Int) (rest : List Char) :
    keyword ((toString n).toList ++ rest) = none := by
  obtain ⟨c, cs, htext, hc, hsecond⟩ := head_integer n rest
  rw [htext]
  have hne : ∀ d : Char, d.isDigit = false → d ≠ '-' → c ≠ d := by
    rintro d hd hminus rfl
    rcases hc with rfl | hdigit
    · exact hminus rfl
    · rw [hd] at hdigit
      exact absurd hdigit (by decide)
  have hinfinity : expectWord "-Infinity".toList (c :: cs) = none := by
    by_cases hminus : c = '-'
    · subst hminus
      cases cs with
      | nil => rfl
      | cons d cs =>
        have hd : d ≠ 'I' := by
          rintro rfl
          exact absurd (hsecond rfl 'I' rfl) (by decide)
        simp [expectWord, expect, hd]
    · simp [expectWord, expect, hminus]
  simp [keyword, expectWord, expect, hne 'n' (by decide) (by decide),
    hne 't' (by decide) (by decide), hne 'f' (by decide) (by decide),
    hne 'N' (by decide) (by decide), hne 'I' (by decide) (by decide)]
  simpa [expectWord, expect] using hinfinity

/-! ### Documents -/

mutual

/-- The fields of every dictionary in it are in the order of their keys, with no key twice. -/
def InOrder : Document → Prop
  | array items => InOrderItems items
  | object fields => (fields.map Prod.fst).Pairwise (· < ·) ∧ InOrderFields fields
  | _ => True

def InOrderItems : List Document → Prop
  | [] => True
  | item :: items => InOrder item ∧ InOrderItems items

def InOrderFields : List (String × Document) → Prop
  | [] => True
  | (_, value) :: fields => InOrder value ∧ InOrderFields fields

end

theorem setField_of_forall_lt (key : String) (value : Document)
    {fields : List (String × Document)} (h : ∀ k ∈ fields.map Prod.fst, k < key) :
    setField key value fields = fields ++ [(key, value)] := by
  induction fields with
  | nil => rfl
  | cons e fields ih =>
    obtain ⟨k, v⟩ := e
    have hk : k < key := h k (by simp)
    rw [setField, if_neg (lt_asymm hk), if_neg hk.ne', ih fun k' hk' => h k' (by simp [hk'])]
    rfl

/-- Fields that are in order are set in their own order. -/
theorem fieldsOf_of_pairwise {fields : List (String × Document)}
    (h : (fields.map Prod.fst).Pairwise (· < ·)) : fieldsOf fields = fields := by
  have hfold : ∀ before after : List (String × Document),
      ((before ++ after).map Prod.fst).Pairwise (· < ·) →
      after.foldl (fun fields e => setField e.1 e.2 fields) before = before ++ after := by
    intro before after
    induction after generalizing before with
    | nil => simp
    | cons e after ih =>
      intro hpair
      have hlt : ∀ k ∈ before.map Prod.fst, k < e.1 := by
        rw [List.map_append, List.pairwise_append] at hpair
        exact fun k hk => hpair.2.2 k hk e.1 (by simp)
      rw [List.foldl_cons, setField_of_forall_lt e.1 e.2 hlt,
        ih (before ++ [e]) (by simpa using hpair)]
      simp
  exact hfold [] fields h

/-- The first character of a written document, which is no blank and closes nothing. -/
theorem head_write {d : Document} {written : List Char} (h : write d = some written) :
    ∃ c cs, written = c :: cs ∧ isBlank c = false ∧ c ≠ ']' ∧ c ≠ '\x7d' := by
  have hdigit : ∀ c : Char, c.isDigit = true → isBlank c = false ∧ c ≠ ']' ∧ c ≠ '\x7d' := by
    intro c hc
    refine ⟨?_, ?_, ?_⟩
    · by_contra hblank
      have hcases : c = ' ' ∨ c = '\t' ∨ c = '\n' ∨ c = '\r' := by
        simp [isBlank] at hblank
        tauto
      rcases hcases with rfl | rfl | rfl | rfl <;> exact absurd hc (by decide)
    · rintro rfl
      exact absurd hc (by decide)
    · rintro rfl
      exact absurd hc (by decide)
  cases d with
  | null =>
    obtain rfl := Option.some.inj h
    exact ⟨'n', _, rfl, by decide⟩
  | boolean b =>
    cases b
    · obtain rfl := Option.some.inj h
      exact ⟨'f', _, rfl, by decide⟩
    · obtain rfl := Option.some.inj h
      exact ⟨'t', _, rfl, by decide⟩
  | integer n =>
    obtain rfl := Option.some.inj h
    obtain ⟨c, cs, htext, hc, -⟩ := head_integer n []
    rw [List.append_nil] at htext
    refine ⟨c, cs, htext, ?_⟩
    rcases hc with rfl | hc
    · decide
    · exact hdigit c hc
  | text s =>
    obtain rfl := Option.some.inj h
    exact ⟨'\"', _, rfl, by decide⟩
  | array items =>
    simp only [write, Option.bind_eq_bind, Option.bind_eq_some_iff] at h
    obtain ⟨texts, -, h⟩ := h
    obtain rfl := Option.some.inj h
    exact ⟨'[', _, rfl, by decide⟩
  | object fields =>
    simp only [write, Option.bind_eq_bind, Option.bind_eq_some_iff] at h
    obtain ⟨texts, -, h⟩ := h
    obtain rfl := Option.some.inj h
    exact ⟨'\x7b', _, rfl, by decide⟩
  | other n => exact absurd h (by simp [write])

/-- A sequence is read back item by item: what a call has to read is one item, and what is left
of the sequence after it. -/
theorem joined_cons (one : List Char) (more : List (List Char)) :
    joined (one :: more) = one ++ (if more = [] then [] else ',' :: joined more) := by
  cases more with
  | nil => simp [joined]
  | cons next more => simp [joined]

/-- The first character of a sequence is the first of its first item. -/
theorem head_joined {d : Document} {one : List Char} (h : write d = some one)
    (more : List (List Char)) (rest : List Char) :
    ∃ c cs, joined (one :: more) ++ rest = c :: cs ∧ isBlank c = false ∧ c ≠ ']' := by
  obtain ⟨c, cs, rfl, hblank, hclose, -⟩ := head_write h
  exact ⟨c, _, by rw [joined_cons]; rfl, hblank, hclose⟩

theorem skip_close (c : Char) (rest : List Char) (h : c = ',' ∨ c = ']' ∨ c = '\x7d') :
    skip (c :: rest) = c :: rest := by
  rcases h with rfl | rfl | rfl <;> exact skip_of_not_blank (by decide)

theorem length_le_escape (cs : List Char) : cs.length ≤ (cs.flatMap escape).length := by
  have hone : ∀ c, 1 ≤ (escape c).length := by
    intro c
    unfold escape
    split_ifs <;> simp
  induction cs with
  | nil => simp
  | cons c cs ih =>
    have hc := hone c
    simp only [List.flatMap_cons, List.length_append, List.length_cons]
    omega

/-- The text of a document is read back on this fuel, if that is more than its length. -/
def ReadsValue (fuel : Nat) : Prop :=
  ∀ d written rest, InOrder d → write d = some written → written.length < fuel → Stops rest →
    value fuel (written ++ rest) = some (d, rest)

/-- So are the items of a list, up to the bracket that closes it. -/
def ReadsElements (fuel : Nat) : Prop :=
  ∀ items texts rest, items ≠ [] → InOrderItems items → writeItems items = some texts →
    (joined texts).length + 1 < fuel →
    elements fuel (joined texts ++ ']' :: rest) = some (items, rest)

/-- And the fields of a dictionary, up to the brace that closes it. -/
def ReadsMembers (fuel : Nat) : Prop :=
  ∀ fields texts rest, fields ≠ [] → InOrderFields fields → writeFields fields = some texts →
    (joined texts).length + 1 < fuel →
    members fuel (joined texts ++ '\x7d' :: rest) = some (fields, rest)

/-- A value: one case for each kind of document. -/
theorem readsValue_succ {fuel : Nat} (hreads : ReadsElements fuel ∧ ReadsMembers fuel) :
    ReadsValue (fuel + 1) := by
  intro d written rest horder hwrite hlength hstops
  cases d with
  | null =>
    obtain rfl := Option.some.inj hwrite
    rfl
  | boolean b =>
    cases b <;> obtain rfl := Option.some.inj hwrite <;> rfl
  | integer n =>
    obtain rfl := Option.some.inj hwrite
    obtain ⟨c, cs, htext, hc, -⟩ := head_integer n rest
    have hkeyword := keyword_number n rest
    have hnumber := number_write n hstops
    rw [htext] at hkeyword hnumber ⊢
    have hne : ∀ e : Char, e.isDigit = false → e ≠ '-' → c ≠ e := by
      rintro e he hminus rfl
      rcases hc with rfl | hdigit
      · exact hminus rfl
      · rw [he] at hdigit
        exact absurd hdigit (by decide)
    rw [value, if_neg (hne _ (by decide) (by decide)), if_neg (hne _ (by decide) (by decide)),
      if_neg (hne _ (by decide) (by decide)), hkeyword, hnumber]
    rfl
  | text s =>
    obtain rfl := Option.some.inj hwrite
    have hlong := length_le_escape s.toList
    have hread := characters_write s.toList rest (show s.toList.length < fuel by
      simp only [quoted, List.length_cons, List.length_append] at hlength
      omega)
    simp only [quoted, List.cons_append, List.append_assoc, List.nil_append, value, if_true,
      hread, Option.bind_eq_bind, Option.bind_some, String.ofList_toList]
  | array items =>
    simp only [write, Option.bind_eq_bind, Option.bind_eq_some_iff] at hwrite
    obtain ⟨texts, htexts, hwrite⟩ := hwrite
    obtain rfl := Option.some.inj hwrite
    simp only [List.length_cons, List.length_append, List.length_nil] at hlength
    cases items with
    | nil =>
      obtain rfl := Option.some.inj htexts
      rfl
    | cons item items =>
      have hitems := hreads.1 (item :: items) texts rest (by simp) horder htexts (by omega)
      have hskip : skip (joined texts ++ ']' :: rest) = joined texts ++ ']' :: rest ∧
          expect ']' (joined texts ++ ']' :: rest) = none := by
        simp only [writeItems, Option.bind_eq_bind, Option.bind_eq_some_iff] at htexts
        obtain ⟨one, hone, more, -, htexts⟩ := htexts
        obtain rfl := Option.some.inj htexts
        obtain ⟨c, cs, htext, hblank, hclose⟩ := head_joined hone more (']' :: rest)
        rw [htext]
        exact ⟨skip_of_not_blank hblank, expect_of_ne _ hclose⟩
      rw [List.cons_append, List.append_assoc, List.singleton_append, value,
        if_neg (by decide), if_neg (by decide), if_pos rfl, hskip.1, hskip.2, hitems]
      rfl
  | object fields =>
    simp only [write, Option.bind_eq_bind, Option.bind_eq_some_iff] at hwrite
    obtain ⟨texts, htexts, hwrite⟩ := hwrite
    obtain rfl := Option.some.inj hwrite
    simp only [List.length_cons, List.length_append, List.length_nil] at hlength
    obtain ⟨hpair, horder⟩ := horder
    cases fields with
    | nil =>
      obtain rfl := Option.some.inj htexts
      rfl
    | cons field fields =>
      have hfields := hreads.2 (field :: fields) texts rest (by simp) horder htexts (by omega)
      have hskip : skip (joined texts ++ '\x7d' :: rest) = joined texts ++ '\x7d' :: rest ∧
          expect '\x7d' (joined texts ++ '\x7d' :: rest) = none := by
        obtain ⟨key, item⟩ := field
        simp only [writeFields, Option.bind_eq_bind, Option.bind_eq_some_iff] at htexts
        obtain ⟨one, hone, more, -, htexts⟩ := htexts
        obtain rfl := Option.some.inj htexts
        rw [joined_cons]
        exact ⟨skip_of_not_blank (by decide), expect_of_ne _ (by decide)⟩
      rw [List.cons_append, List.append_assoc, List.singleton_append, value,
        if_neg (by decide), if_pos rfl, hskip.1, hskip.2, hfields]
      simp only [Option.bind_eq_bind, Option.bind_some, fieldsOf_of_pairwise hpair]
  | other n => exact absurd hwrite (by simp [write])

/-- The items of a list: the last one, or one and a comma before the others. -/
theorem readsElements_succ {fuel : Nat} (hvalues : ReadsValue fuel)
    (hmores : ReadsElements fuel) : ReadsElements (fuel + 1) := by
  intro items texts rest hne horder hwrite hlength
  cases items with
  | nil => exact absurd rfl hne
  | cons item items =>
    simp only [writeItems, Option.bind_eq_bind, Option.bind_eq_some_iff] at hwrite
    obtain ⟨one, hone, more, hmore, hwrite⟩ := hwrite
    obtain rfl := Option.some.inj hwrite
    rw [joined_cons] at hlength ⊢
    cases items with
    | nil =>
      obtain rfl := Option.some.inj hmore
      simp only [if_true, List.append_nil] at hlength ⊢
      have hitem := hvalues item one (']' :: rest) horder.1 hone (by omega)
        (stops_cons (by simp))
      rw [elements, hitem]
      simp only [Option.bind_eq_bind, Option.bind_some, skip_close ']' rest (by simp),
        expect_self]
    | cons next items =>
      have hmore_ne : more ≠ [] := by
        rintro rfl
        simp [writeItems, Option.bind_eq_some_iff] at hmore
      rw [if_neg hmore_ne] at hlength ⊢
      simp only [List.length_append, List.length_cons] at hlength
      have hitem := hvalues item one (',' :: (joined more ++ ']' :: rest)) horder.1 hone
        (by omega) (stops_cons (by simp))
      have hitems := hmores (next :: items) more rest (by simp) horder.2 hmore (by omega)
      have hskip : skip (joined more ++ ']' :: rest) = joined more ++ ']' :: rest := by
        simp only [writeItems, Option.bind_eq_bind, Option.bind_eq_some_iff] at hmore
        obtain ⟨two, htwo, more', -, hmore⟩ := hmore
        obtain rfl := Option.some.inj hmore
        obtain ⟨c, cs, htext, hblank, -⟩ := head_joined htwo more' (']' :: rest)
        rw [htext]
        exact skip_of_not_blank hblank
      rw [List.append_assoc, List.cons_append, elements, hitem]
      simp only [Option.bind_eq_bind, Option.bind_some, skip_close ',' _ (by simp),
        expect_of_ne _ (show ',' ≠ ']' by decide), expect_self, hskip, hitems]

/-- The fields of a dictionary, in the same way. -/
theorem readsMembers_succ {fuel : Nat} (hvalues : ReadsValue fuel)
    (hmores : ReadsMembers fuel) : ReadsMembers (fuel + 1) := by
  intro fields texts rest hne horder hwrite hlength
  cases fields with
  | nil => exact absurd rfl hne
  | cons field fields =>
    obtain ⟨key, item⟩ := field
    simp only [writeFields, Option.bind_eq_bind, Option.bind_eq_some_iff] at hwrite
    obtain ⟨one, hone, more, hmore, hwrite⟩ := hwrite
    obtain rfl := Option.some.inj hwrite
    have hlong := length_le_escape key.toList
    obtain ⟨c, cs, hcs, hblank, -⟩ := head_write hone
    have hvalue : ∀ rest, skip (one ++ rest) = one ++ rest := by
      intro rest
      rw [hcs]
      exact skip_of_not_blank hblank
    rw [joined_cons] at hlength ⊢
    cases fields with
    | nil =>
      obtain rfl := Option.some.inj hmore
      simp only [if_true, List.append_nil, List.length_append, List.length_cons, quoted]
        at hlength ⊢
      have hkey := characters_write key.toList (':' :: (one ++ '\x7d' :: rest))
        (show key.toList.length < fuel by omega)
      have hitem := hvalues item one ('\x7d' :: rest) horder.1 hone (by omega)
        (stops_cons (by simp))
      simp only [List.cons_append, List.append_assoc, List.nil_append, members, expect_self,
        Option.bind_eq_bind, Option.bind_some, hkey,
        skip_of_not_blank (show isBlank ':' = false by decide), hvalue, hitem,
        skip_close '\x7d' rest (by simp), String.ofList_toList]
    | cons next fields =>
      have hmore_ne : more ≠ [] := by
        rintro rfl
        simp [writeFields, Option.bind_eq_some_iff] at hmore
      rw [if_neg hmore_ne] at hlength ⊢
      simp only [List.length_append, List.length_cons, quoted] at hlength ⊢
      have hkey := characters_write key.toList
        (':' :: (one ++ ',' :: (joined more ++ '\x7d' :: rest)))
        (show key.toList.length < fuel by omega)
      have hitem := hvalues item one (',' :: (joined more ++ '\x7d' :: rest)) horder.1 hone
        (by omega) (stops_cons (by simp))
      have hfields := hmores (next :: fields) more rest (by simp) horder.2 hmore (by omega)
      have hskip : skip (joined more ++ '\x7d' :: rest) = joined more ++ '\x7d' :: rest := by
        simp only [writeFields, Option.bind_eq_bind, Option.bind_eq_some_iff] at hmore
        obtain ⟨two, htwo, more', -, hmore⟩ := hmore
        obtain rfl := Option.some.inj hmore
        rw [joined_cons]
        exact skip_of_not_blank (by decide)
      simp only [List.cons_append, List.append_assoc, List.nil_append, members, expect_self,
        Option.bind_eq_bind, Option.bind_some, hkey,
        skip_of_not_blank (show isBlank ':' = false by decide), hvalue, hitem,
        skip_close ',' _ (by simp), expect_of_ne _ (show ',' ≠ '\x7d' by decide), hskip,
        hfields, String.ofList_toList]

theorem reads (fuel : Nat) : ReadsValue fuel ∧ ReadsElements fuel ∧ ReadsMembers fuel := by
  induction fuel with
  | zero =>
    exact ⟨fun _ _ _ _ _ h => absurd h (by omega), fun _ _ _ _ _ _ h => absurd h (by omega),
      fun _ _ _ _ _ _ h => absurd h (by omega)⟩
  | succ fuel ih =>
    obtain ⟨hvalues, helements, hmembers⟩ := ih
    exact ⟨readsValue_succ ⟨helements, hmembers⟩, readsElements_succ hvalues helements,
      readsMembers_succ hvalues hmembers⟩

/-- **What is written is read back.** -/
theorem parse_write {d : Document} {written : List Char} (horder : InOrder d)
    (h : write d = some written) : parse written = some d := by
  obtain ⟨c, cs, hcs, hblank, -⟩ := head_write h
  have hskip : skip written = written := by
    rw [hcs]
    exact skip_of_not_blank hblank
  have hread := (reads (written.length + 1)).1 d written [] horder h (by omega) stops_nil
  rw [List.append_nil] at hread
  rw [parse, hskip, hread]
  rfl

/-! ## Bytes -/

/-- The canonical JSON text of a document, encoded. -/
def canonicalJsonBytes (d : Document) : Option (List UInt8) :=
  (write d).map fun written => (String.ofList written).toByteArray.data.toList

/-- The document of encoded JSON text. -/
def loads (bytes : List UInt8) : Option Document := do
  let s ← String.fromUTF8? ⟨bytes.toArray⟩
  parse s.toList

/-- **What is encoded is decoded**: the bytes of a document are the bytes of no other. -/
theorem loads_canonicalJsonBytes {d : Document} {bytes : List UInt8} (horder : InOrder d)
    (h : canonicalJsonBytes d = some bytes) : loads bytes = some d := by
  obtain ⟨written, hwrite, rfl⟩ := Option.map_eq_some_iff.mp h
  have hvalid : (String.ofList written).toByteArray.IsValidUTF8 :=
    (String.ofList written).isValidUTF8
  have htext : String.fromUTF8? (String.ofList written).toByteArray
      = some (String.ofList written) := by
    rw [String.fromUTF8?, dif_pos hvalid]
    rfl
  rw [loads, Array.toArray_toList, htext, Option.bind_eq_bind, Option.bind_some,
    String.toList_ofList]
  exact parse_write horder hwrite

/-- What encodes a character other than a line feed holds no byte of one: the bytes of a longer
encoding all have their high bit. -/
theorem newline_notMem_utf8EncodeChar {c : Char} (h : c ≠ '\n') :
    (10 : UInt8) ∉ String.utf8EncodeChar c := by
  have hval : c.val.toNat ≠ 10 := fun hval => h (Char.toNat_inj.mp hval)
  have hbyte : ∀ n, n < 256 → n ≠ 10 → (10 : UInt8) ≠ UInt8.ofNat n := by
    intro n hn hne heq
    have htoNat := congrArg UInt8.toNat heq
    rw [UInt8.toNat_ofNat_of_lt' (by omega)] at htoNat
    exact hne htoNat.symm
  unfold String.utf8EncodeChar
  dsimp only
  split_ifs with h₁ h₂ h₃
  · simpa using hbyte _ (by omega) hval
  · simp only [List.mem_cons, List.not_mem_nil, or_false, not_or]
    exact ⟨hbyte _ (by omega) (by omega), hbyte _ (by omega) (by omega)⟩
  · simp only [List.mem_cons, List.not_mem_nil, or_false, not_or]
    exact ⟨hbyte _ (by omega) (by omega), hbyte _ (by omega) (by omega),
      hbyte _ (by omega) (by omega)⟩
  · simp only [List.mem_cons, List.not_mem_nil, or_false, not_or]
    exact ⟨hbyte _ (by omega) (by omega), hbyte _ (by omega) (by omega),
      hbyte _ (by omega) (by omega), hbyte _ (by omega) (by omega)⟩

theorem newline_notMem_quoted (s : String) : '\n' ∉ quoted s := by
  have hescape : ∀ c, '\n' ∉ escape c := by
    intro c
    unfold escape
    split_ifs with h₁ h₂ h₃ h₄ h₅ h₆ h₇ h₈
    all_goals try decide
    · have hdigit : ∀ n, n < 16 → '\n' ≠ hexCharacter n := by
        intro n hn
        interval_cases n <;> decide
      simp only [List.mem_cons, List.not_mem_nil, or_false, not_or]
      exact ⟨by decide, by decide, by decide, by decide, hdigit _ (by omega), hdigit _ (by omega)⟩
    · simpa using Ne.symm h₃
  simp only [quoted, List.mem_cons, List.mem_append, List.mem_flatMap, List.not_mem_nil, or_false,
    not_or, not_exists, not_and]
  exact ⟨by decide, fun c _ => hescape c, by decide⟩

theorem newline_notMem_joined {texts : List (List Char)} (h : ∀ t ∈ texts, '\n' ∉ t) :
    '\n' ∉ joined texts := by
  induction texts with
  | nil => simp [joined]
  | cons one more ih =>
    have hmore := ih fun t ht => h t (by simp [ht])
    rw [joined_cons]
    split_ifs <;> simp [h one (by simp), hmore]

theorem newline_notMem_integer (n : Int) : '\n' ∉ (toString n).toList := by
  intro hmem
  have hdigits : ∀ m : Nat, '\n' ∉ Nat.toDigits 10 m := fun m h =>
    absurd (toDigits_isDigit h) (by decide)
  cases n with
  | ofNat n =>
    rw [show (toString (Int.ofNat n)).toList = Nat.toDigits 10 n from Nat.toList_repr] at hmem
    exact hdigits n hmem
  | negSucc n =>
    rw [show toString (Int.negSucc n) = "-" ++ Nat.repr (n + 1) from rfl, String.toList_append,
      Nat.toList_repr, List.mem_append] at hmem
    exact hmem.elim (fun h => absurd h (by decide)) (hdigits (n + 1))

mutual

theorem newline_notMem_write : ∀ (d : Document) {written : List Char}, write d = some written →
    '\n' ∉ written
  | null, _, h => by
    obtain rfl := Option.some.inj h
    decide
  | boolean true, _, h => by
    obtain rfl := Option.some.inj h
    decide
  | boolean false, _, h => by
    obtain rfl := Option.some.inj h
    decide
  | integer n, _, h => by
    obtain rfl := Option.some.inj h
    exact newline_notMem_integer n
  | text s, _, h => by
    obtain rfl := Option.some.inj h
    exact newline_notMem_quoted s
  | array items, _, h => by
    simp only [write, Option.bind_eq_bind, Option.bind_eq_some_iff] at h
    obtain ⟨texts, htexts, h⟩ := h
    obtain rfl := Option.some.inj h
    simpa using newline_notMem_joined (newline_notMem_writeItems items htexts)
  | object fields, _, h => by
    simp only [write, Option.bind_eq_bind, Option.bind_eq_some_iff] at h
    obtain ⟨texts, htexts, h⟩ := h
    obtain rfl := Option.some.inj h
    simpa using newline_notMem_joined (newline_notMem_writeFields fields htexts)
  | other _, _, h => by exact absurd h (by simp [write])

theorem newline_notMem_writeItems : ∀ (items : List Document) {texts : List (List Char)},
    writeItems items = some texts → ∀ t ∈ texts, '\n' ∉ t
  | [], _, h => by
    obtain rfl := Option.some.inj h
    simp
  | item :: items, _, h => by
    simp only [writeItems, Option.bind_eq_bind, Option.bind_eq_some_iff] at h
    obtain ⟨one, hone, more, hmore, h⟩ := h
    obtain rfl := Option.some.inj h
    have hitem := newline_notMem_write item hone
    have hitems := newline_notMem_writeItems items hmore
    simpa using ⟨hitem, hitems⟩

theorem newline_notMem_writeFields : ∀ (fields : List (String × Document))
    {texts : List (List Char)}, writeFields fields = some texts → ∀ t ∈ texts, '\n' ∉ t
  | [], _, h => by
    obtain rfl := Option.some.inj h
    simp
  | (key, value) :: fields, _, h => by
    simp only [writeFields, Option.bind_eq_bind, Option.bind_eq_some_iff] at h
    obtain ⟨one, hone, more, hmore, h⟩ := h
    obtain rfl := Option.some.inj h
    have hkey := newline_notMem_quoted key
    have hvalue := newline_notMem_write value hone
    have hfields := newline_notMem_writeFields fields hmore
    simpa using ⟨⟨hkey, hvalue⟩, hfields⟩

end

/-- **A canonical text is one line**: no byte of it is a line feed. -/
theorem newline_notMem_canonicalJsonBytes {d : Document} {bytes : List UInt8}
    (h : canonicalJsonBytes d = some bytes) : (10 : UInt8) ∉ bytes := by
  obtain ⟨written, hwrite, rfl⟩ := Option.map_eq_some_iff.mp h
  have hnone := newline_notMem_write d hwrite
  rw [String.toByteArray_ofList, List.utf8Encode, List.data_toByteArray, List.toList_toArray]
  intro hmem
  obtain ⟨c, hc, hbyte⟩ := List.mem_flatMap.mp hmem
  exact newline_notMem_utf8EncodeChar (fun heq => hnone (heq ▸ hc)) hbyte

/-! ## Documents with a canonical text -/

/-- A document whose dictionaries are in order and which has a text. -/
def Canonical (d : Document) : Prop := InOrder d ∧ (write d).isSome = true

/-- **A canonical document is encoded, and its encoding is decoded to it.** -/
theorem Canonical.exists_bytes {d : Document} (h : Canonical d) :
    ∃ bytes, canonicalJsonBytes d = some bytes ∧ loads bytes = some d := by
  obtain ⟨written, hwritten⟩ := Option.isSome_iff_exists.mp h.2
  have hbytes : canonicalJsonBytes d = some (String.ofList written).toByteArray.data.toList := by
    rw [canonicalJsonBytes, hwritten]
    rfl
  exact ⟨_, hbytes, loads_canonicalJsonBytes h.1 hbytes⟩

@[simp] theorem canonical_null : Canonical null := ⟨trivial, rfl⟩

@[simp] theorem canonical_boolean (b : Bool) : Canonical (boolean b) :=
  ⟨trivial, by cases b <;> rfl⟩

@[simp] theorem canonical_integer (n : Int) : Canonical (integer n) := ⟨trivial, rfl⟩

@[simp] theorem canonical_text (s : String) : Canonical (text s) := ⟨trivial, rfl⟩

@[simp] theorem canonical_count (n : Nat) : Canonical (count n) := canonical_integer n

theorem canonical_optional {α : Type} {write : α → Document} {value : Option α}
    (h : ∀ a ∈ value, Canonical (write a)) : Canonical (optional write value) := by
  cases value with
  | none => exact canonical_null
  | some a => exact h a rfl

@[simp] theorem canonical_optionalCount (value : Option Nat) : Canonical (optionalCount value) :=
  canonical_optional fun n _ => canonical_count n

@[simp] theorem canonical_optionalInteger (value : Option Int) :
    Canonical (optionalInteger value) := canonical_optional fun n _ => canonical_integer n

theorem canonical_array {items : List Document} (h : ∀ item ∈ items, Canonical item) :
    Canonical (array items) := by
  have hall : InOrderItems items ∧ (writeItems items).isSome = true := by
    induction items with
    | nil => exact ⟨trivial, rfl⟩
    | cons item items ih =>
      obtain ⟨⟨horder, hone⟩, hitems⟩ := List.forall_mem_cons.mp h
      obtain ⟨hrest, hmore⟩ := ih hitems
      obtain ⟨one, hone⟩ := Option.isSome_iff_exists.mp hone
      obtain ⟨more, hmore⟩ := Option.isSome_iff_exists.mp hmore
      refine ⟨⟨horder, hrest⟩, ?_⟩
      rw [writeItems, hone, hmore]
      rfl
  obtain ⟨texts, htexts⟩ := Option.isSome_iff_exists.mp hall.2
  refine ⟨hall.1, ?_⟩
  rw [write, htexts]
  rfl

theorem canonical_object {fields : List (String × Document)}
    (hkeys : (fields.map Prod.fst).IsChain (· < ·)) (h : ∀ field ∈ fields, Canonical field.2) :
    Canonical (object fields) := by
  have hall : InOrderFields fields ∧ (writeFields fields).isSome = true := by
    clear hkeys
    induction fields with
    | nil => exact ⟨trivial, rfl⟩
    | cons field fields ih =>
      obtain ⟨⟨horder, hone⟩, hfields⟩ := List.forall_mem_cons.mp h
      obtain ⟨hrest, hmore⟩ := ih hfields
      obtain ⟨one, hone⟩ := Option.isSome_iff_exists.mp hone
      obtain ⟨more, hmore⟩ := Option.isSome_iff_exists.mp hmore
      refine ⟨⟨horder, hrest⟩, ?_⟩
      rw [writeFields, hone, hmore]
      rfl
  obtain ⟨texts, htexts⟩ := Option.isSome_iff_exists.mp hall.2
  refine ⟨⟨List.isChain_iff_pairwise.mp hkeys, hall.1⟩, ?_⟩
  rw [write, htexts]
  rfl

end Document

end Checked
