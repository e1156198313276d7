import OnchainBacktest.Lib.JsonText
import OnchainBacktest.Lib.PythonJson

/-!
# Flat objects in JSON

An object whose keys are plain and in order and whose values are plain texts and natural numbers:
`loads_write` says that it is read back from the bytes of its text.
-/

set_option autoImplicit false

namespace PythonJson

open Checked

/-! ## Texts and numbers -/

/-- The characters that stand for themselves in a JSON string, in one byte each. -/
def Plain (s : Points) : Prop := ∀ c ∈ s, 32 ≤ c ∧ c < 128 ∧ c ≠ 34 ∧ c ≠ 92

instance decidablePlain (s : Points) : Decidable (Plain s) := by
  unfold Plain
  infer_instance

section Reading

variable {s rest : Points} {n rounds depth : Nat}

theorem expect_of_ne {c : Char} {d : Nat} (h : d ≠ c.toNat) : expect c (d :: rest) = none := by
  simp [expect, h]

theorem skip_of_not_blank {c : Nat} (h : isBlank c = false) : skip (c :: rest) = c :: rest := by
  simp [skip, h]

theorem quoted_of_plain (h : Plain s) : quoted s = 34 :: (s ++ [34]) := by
  have hescape : s.flatMap escape = s := by
    induction s with
    | nil => rfl
    | cons c s ih =>
      obtain ⟨hlow, -, hquote, hslash⟩ := h c List.mem_cons_self
      have hself : escape c = [c] := by
        simp only [escape, if_neg hquote, if_neg hslash]
        repeat rw [if_neg (by omega)]
      rw [List.flatMap_cons, hself, ih fun d hd => h d (List.mem_cons_of_mem _ hd)]
      rfl
  rw [quoted, hescape]

theorem characters_of_plain (h : Plain s) (hrounds : s.length < rounds) :
    characters rounds (s ++ 34 :: rest) = some (s, rest) := by
  induction s generalizing rounds with
  | nil =>
    cases rounds with
    | zero => simp at hrounds
    | succ rounds => simp [characters]
  | cons c s ih =>
    cases rounds with
    | zero => simp at hrounds
    | succ rounds =>
      obtain ⟨hlow, -, hquote, hslash⟩ := h c List.mem_cons_self
      have hmore := ih (fun d hd => h d (List.mem_cons_of_mem _ hd)) (by simpa using hrounds)
      rw [List.cons_append, characters, if_neg hquote, if_neg hslash, if_neg (by omega), hmore]
      rfl

theorem string_of_plain (h : Plain s) (hrounds : s.length < rounds) :
    string rounds (s ++ 34 :: rest) = .ok (s, rest) := by
  rw [string, characters_of_plain h hrounds]

/-- The digits of a number. -/
def digits (n : Nat) : Points := (Nat.toDigits 10 n).map Char.toNat

theorem points_toString (n : Nat) : points (toString n) = digits n := by
  rw [points, digits]
  exact congrArg (List.map Char.toNat) Nat.toList_repr

theorem isDigit_of_mem_digits : ∀ c ∈ digits n, isDigit c = true := by
  intro c hc
  obtain ⟨d, hd, rfl⟩ := List.mem_map.mp hc
  have hdigit := Document.toDigits_isDigit hd
  rw [Char.isDigit, Bool.and_eq_true, decide_eq_true_eq, decide_eq_true_eq] at hdigit
  have hge : 48 ≤ d.toNat := UInt32.le_iff_toNat_le.mp hdigit.1
  have hle : d.toNat ≤ 57 := UInt32.le_iff_toNat_le.mp hdigit.2
  simp [isDigit, hge, hle]

/-- The first digit of a number. -/
theorem digits_eq_cons (n : Nat) : ∃ d ds, digits n = d :: ds ∧ isDigit d = true := by
  cases hdigits : digits n with
  | nil => exact absurd (List.map_eq_nil_iff.mp hdigits) Nat.toDigits_ne_nil
  | cons d ds => exact ⟨d, ds, rfl, isDigit_of_mem_digits (n := n) d (by simp [hdigits])⟩

theorem ofDigits_digits (n : Nat) : ofDigits (digits n) = n := by
  rw [ofDigits, digits, List.foldl_map]
  exact Document.foldl_toDigits n

/-- What may follow a number. -/
def Stops (rest : Points) : Prop := ∀ c ∈ rest.head?, isDigit c = false ∧ c ≠ 46 ∧ c ≠ 101 ∧ c ≠ 69

theorem integerDigits_digits (h : Stops rest) :
    integerDigits (digits n ++ rest) = some (digits n, rest) := by
  have hstop : rest.takeWhile isDigit = [] ∧ rest.dropWhile isDigit = rest := by
    cases rest with
    | nil => exact ⟨rfl, rfl⟩
    | cons c rest => simp [(h c rfl).1]
  by_cases hzero : n = 0
  · subst hzero
    rfl
  cases hdigits : digits n with
  | nil => exact absurd (List.map_eq_nil_iff.mp hdigits) Nat.toDigits_ne_nil
  | cons c cs =>
    have hc : c ≠ 48 := by
      cases hchars : Nat.toDigits 10 n with
      | nil => exact absurd hchars Nat.toDigits_ne_nil
      | cons d ds =>
        have hd := Document.head_toDigits (Nat.pos_of_ne_zero hzero) d (by simp [hchars])
        rw [digits, hchars, List.map_cons] at hdigits
        obtain ⟨rfl, -⟩ := List.cons_eq_cons.mp hdigits
        exact fun he => hd (Char.toNat_inj.mp he)
    have hall : ∀ d ∈ c :: cs, isDigit d = true := fun d hd =>
      isDigit_of_mem_digits d (hdigits ▸ hd)
    have htake : (c :: (cs ++ rest)).takeWhile isDigit = c :: cs := by
      rw [← List.cons_append, List.takeWhile_append_of_pos hall, hstop.1, List.append_nil]
    have hdrop : (c :: (cs ++ rest)).dropWhile isDigit = rest := by
      rw [← List.cons_append, List.dropWhile_append_of_pos hall, hstop.2]
    rw [List.cons_append, integerDigits, if_neg hc, if_pos (hall c List.mem_cons_self), htake,
      hdrop]

theorem Stops.fraction_eq_none (h : Stops rest) : fraction rest = none := by
  cases rest with
  | nil => rfl
  | cons c rest => rw [fraction, expect_of_ne (h c rfl).2.1, Option.bind_none]

theorem Stops.exponent_eq_none (h : Stops rest) : exponent rest = none := by
  cases rest with
  | nil => rfl
  | cons c rest =>
    rw [exponent, expect_of_ne (h c rfl).2.2.1, expect_of_ne (h c rfl).2.2.2, Option.or_none,
      Option.bind_none]

theorem expect_digits {c : Char} (h : isDigit c.toNat = false) :
    expect c (digits n ++ rest) = none := by
  obtain ⟨d, ds, hdigits, hd⟩ := digits_eq_cons n
  rw [hdigits]
  refine expect_of_ne fun he => ?_
  rw [he, h] at hd
  cases hd

/-- A number is read back. -/
theorem number_digits (hfew : (digits n).length ≤ INT_MAX_STR_DIGITS) (h : Stops rest) :
    number (digits n ++ rest) = .ok (.integer n, rest) := by
  rw [number, expect_digits (by decide), Option.getD_none, integerDigits_digits h]
  simp only [h.fraction_eq_none, h.exponent_eq_none, Option.getD_none, ofDigits_digits,
    if_neg (not_lt.mpr hfew), Option.isSome_none, Bool.false_eq_true, or_self, if_false]

theorem keyword_digits : keyword (digits n ++ rest) = none := by
  obtain ⟨d, ds, hdigits, hd⟩ := digits_eq_cons n
  have hword : ∀ c word, isDigit c = false → points word = c :: (points word).tail →
      expectWord word (d :: (ds ++ rest)) = none := by
    intro c word hc hword
    rw [expectWord, hword, List.isPrefixOf, if_neg]
    intro hprefix
    obtain ⟨hcd, -⟩ := Bool.and_eq_true_iff.mp hprefix
    rw [beq_iff_eq.mp hcd, hd] at hc
    cases hc
  rw [hdigits, List.cons_append, keyword]
  simp only [List.findSome?_cons, List.findSome?_nil, hword 110 "null" rfl rfl,
    hword 116 "true" rfl rfl, hword 102 "false" rfl rfl, hword 78 "NaN" rfl rfl,
    hword 73 "Infinity" rfl rfl, hword 45 "-Infinity" rfl rfl, Option.map_none]

end Reading

/-! ## Flat objects -/

/-- A value of a flat object: a plain text, or a natural number that `int` takes. -/
inductive Flat : Value → Prop
  | text {s : Points} (h : Plain s) : Flat (.text s)
  | integer {n : Nat} (h : (digits n).length ≤ INT_MAX_STR_DIGITS) : Flat (.integer n)

/-- What follows an item of a container starts with a comma or a closing brace. -/
theorem stops_comma (rest : Points) : Stops (44 :: rest) := by
  intro c hc
  obtain rfl := Option.some.inj hc
  decide

theorem stops_brace (rest : Points) : Stops (125 :: rest) := by
  intro c hc
  obtain rfl := Option.some.inj hc
  decide

/-- A value of a flat object is read back. -/
theorem scan_write {value : Value} (h : Flat value) {rest : Points} (hstops : Stops rest)
    {rounds : Nat} (depth : Nat) (hrounds : (write value).length < rounds) :
    scan rounds depth (write value ++ rest) = .ok (value, rest) := by
  cases h with
  | @text s hplain =>
    have hwrite : write (.text s) ++ rest = 34 :: (s ++ 34 :: rest) := by
      rw [write, quoted_of_plain hplain]
      simp
    have hshort : s.length < rounds := by
      rw [write, quoted_of_plain hplain] at hrounds
      simp at hrounds
      omega
    have hatom : atom rounds (34 :: (s ++ 34 :: rest)) = .ok (.text s, rest) := by
      rw [atom, show expect '\"' (34 :: (s ++ 34 :: rest)) = some (s ++ 34 :: rest) from rfl]
      dsimp only
      rw [string_of_plain hplain hshort, ok_bind]
    rw [hwrite]
    cases depth with
    | zero => exact hatom
    | succ depth => exact hatom
  | @integer n hfew =>
    have hwrite : write (.integer n) = digits n := points_toString n
    have hatom : atom rounds (digits n ++ rest) = .ok (.integer n, rest) := by
      rw [atom, expect_digits (by decide)]
      dsimp only
      rw [keyword_digits]
      exact number_digits hfew hstops
    rw [hwrite]
    cases depth with
    | zero =>
      rw [scan, expect_digits (by decide), expect_digits (by decide), if_neg (by simp), hatom]
    | succ depth =>
      rw [scan, expect_digits (by decide)]
      dsimp only
      rw [expect_digits (by decide)]
      exact hatom

/-- The text of an entry of an object. -/
def writeMember (field : Points × Value) : Points := quoted field.1 ++ 58 :: write field.2

theorem skip_write {value : Value} (h : Flat value) (rest : Points) :
    skip (write value ++ rest) = write value ++ rest := by
  cases h with
  | text h => rfl
  | @integer n h =>
    obtain ⟨d, ds, hdigits, hd⟩ := digits_eq_cons n
    rw [isDigit, Bool.and_eq_true, decide_eq_true_iff, decide_eq_true_iff] at hd
    have hwrite : write (.integer n) = d :: ds := (points_toString n).trans hdigits
    rw [hwrite]
    exact skip_of_not_blank (by simp [isBlank]; omega)

/-- An entry is read back. -/
theorem member_write {field : Points × Value} (hkey : Plain field.1) (hvalue : Flat field.2)
    {rest : Points} (hstops : Stops rest) {rounds : Nat} (depth : Nat)
    (hrounds : (writeMember field).length < rounds) :
    member (scan rounds depth) rounds (writeMember field ++ rest) = .ok (field, rest) := by
  have hwrite : writeMember field ++ rest =
      34 :: (field.1 ++ 34 :: 58 :: (write field.2 ++ rest)) := by
    rw [writeMember, quoted_of_plain hkey]
    simp
  rw [writeMember, quoted_of_plain hkey] at hrounds
  simp only [List.cons_append, List.length_cons, List.length_append, List.length_nil] at hrounds
  rw [hwrite, member, show expect '\"' (34 :: (field.1 ++ 34 :: 58 :: (write field.2 ++ rest))) =
    some (field.1 ++ 34 :: 58 :: (write field.2 ++ rest)) from rfl]
  dsimp only
  rw [string_of_plain hkey (by omega), ok_bind]
  dsimp only
  rw [skip_of_not_blank (by decide),
    show expect ':' (58 :: (write field.2 ++ rest)) = some (write field.2 ++ rest) from rfl]
  dsimp only
  rw [skip_write hvalue, scan_write hvalue hstops depth (by omega), ok_bind]

/-- The entries of a flat object are read back. -/
theorem sequence_writeMember {fields : List (Points × Value)} (hne : fields ≠ [])
    (hflat : ∀ field ∈ fields, Plain field.1 ∧ Flat field.2) (rest : Points) {rounds : Nat}
    (depth bound : Nat) (hbound : ∀ field ∈ fields, (writeMember field).length < bound)
    (hrounds : fields.length ≤ rounds) :
    sequence (member (scan bound depth) bound) '\x7d' rounds
      (joined (fields.map writeMember) ++ 125 :: rest) = .ok (fields, rest) := by
  induction fields generalizing rounds with
  | nil => exact absurd rfl hne
  | cons field fields ih =>
    obtain ⟨hkey, hvalue⟩ := hflat field List.mem_cons_self
    have hshort := hbound field List.mem_cons_self
    cases rounds with
    | zero => simp at hrounds
    | succ rounds =>
      by_cases hlast : fields = []
      · subst hlast
        rw [List.map_cons, List.map_nil, joined, sequence,
          member_write hkey hvalue (stops_brace rest) depth hshort, ok_bind]
        rfl
      · rw [List.map_cons, joined_cons _ (by simpa using hlast), List.append_assoc,
          List.cons_append, sequence, member_write hkey hvalue (stops_comma _) depth hshort,
          ok_bind]
        have hnext : skip (joined (fields.map writeMember) ++ 125 :: rest) =
            joined (fields.map writeMember) ++ 125 :: rest := by
          cases fields with
          | nil => exact absurd rfl hlast
          | cons next fields =>
            cases fields with
            | nil => rfl
            | cons _ _ => rfl
        dsimp only
        rw [separator, skip_of_not_blank (by decide), expect_of_ne (by decide)]
        dsimp only
        rw [show expect ',' (44 :: (joined (fields.map writeMember) ++ 125 :: rest)) =
          some (joined (fields.map writeMember) ++ 125 :: rest) from rfl]
        dsimp only
        rw [hnext, ok_bind]
        dsimp only
        rw [if_neg (by simp), ih hlast (fun f hf => hflat f (List.mem_cons_of_mem _ hf))
          (fun f hf => hbound f (List.mem_cons_of_mem _ hf)) (by simpa using hrounds), ok_bind]

/-- A dictionary of entries with distinct keys. -/
theorem dictionary_of_nodup {entries : List (Points × Value)}
    (h : (entries.map Prod.fst).Nodup) : dictionary entries = entries := by
  have hset : ∀ (fields : List (Points × Value)) key value, key ∉ fields.map Prod.fst →
      setField key value fields = fields ++ [(key, value)] := by
    intro fields key value hkey
    induction fields with
    | nil => rfl
    | cons field fields ih =>
      rw [List.map_cons, List.mem_cons, not_or] at hkey
      rw [setField, if_neg fun he => hkey.1 he.symm, ih hkey.2]
      rfl
  have hfold : ∀ fields : List (Points × Value), ((fields ++ entries).map Prod.fst).Nodup →
      entries.foldl (fun fields entry => setField entry.1 entry.2 fields) fields =
        fields ++ entries := by
    clear h
    intro fields h
    induction entries generalizing fields with
    | nil => simp
    | cons entry entries ih =>
      have hkey : entry.1 ∉ fields.map Prod.fst := by
        rw [List.map_append, List.nodup_append] at h
        exact fun hmem => h.2.2 _ hmem _ (by simp) rfl
      rw [List.foldl_cons, hset fields entry.1 entry.2 hkey, ih _ (by simpa using h)]
      simp
  exact hfold [] h

/-- The entries of a flat object are in the order of their keys. -/
structure FlatFields (fields : List (Points × Value)) : Prop where
  flat : ∀ field ∈ fields, Plain field.1 ∧ Flat field.2
  ordered : (fields.map Prod.fst).Pairwise (· < ·)

theorem write_object {fields : List (Points × Value)}
    (h : (fields.map Prod.fst).Pairwise (· < ·)) :
    write (.object fields) = 123 :: (joined (fields.map writeMember) ++ [125]) := by
  have hsorted : ((writeFields fields).Pairwise keyOrder) := by
    rw [writeFields_eq, List.pairwise_map]
    exact (List.pairwise_map.mp h).imp le_of_lt
  rw [write, hsorted.insertionSort_eq, writeFields_eq, List.map_map]
  rfl

theorem FlatFields.nodup {fields : List (Points × Value)} (h : FlatFields fields) :
    (fields.map Prod.fst).Nodup := h.ordered.imp ne_of_lt

theorem length_joined {texts : List Points} :
    texts.length ≤ (joined texts).length + 1 ∧
      ∀ text ∈ texts, text.length ≤ (joined texts).length := by
  induction texts with
  | nil => simp [joined]
  | cons one more ih =>
    by_cases hlast : more = []
    · subst hlast
      simp [joined]
    · rw [joined_cons one hlast, List.length_append, List.length_cons, List.length_cons]
      refine ⟨by omega, fun text htext => ?_⟩
      rcases List.mem_cons.mp htext with rfl | hmem
      · omega
      · have hle := ih.2 text hmem
        omega

/-- A flat object is read back from its text. -/
theorem scan_object {fields : List (Points × Value)} (h : FlatFields fields) (hne : fields ≠ [])
    (depth : Nat) : ∀ rounds, (write (.object fields)).length < rounds →
      scan rounds (depth + 1) (write (.object fields)) = .ok (.object fields, []) := by
  intro rounds hrounds
  obtain ⟨hcount, hshort⟩ := @length_joined (fields.map writeMember)
  rw [write_object h.ordered] at hrounds ⊢
  rw [List.length_cons, List.length_append, List.length_singleton] at hrounds
  rw [List.length_map] at hcount
  have hsequence : sequence (member (scan rounds depth) rounds) '\x7d' rounds
      (joined (fields.map writeMember) ++ [125]) = .ok (fields, []) := by
    refine sequence_writeMember hne h.flat [] depth rounds (fun field hfield => ?_) (by omega)
    have hle := hshort _ (List.mem_map_of_mem (f := writeMember) hfield)
    omega
  have hopen : skip (joined (fields.map writeMember) ++ [125]) =
        joined (fields.map writeMember) ++ [125] ∧
      expect '\x7d' (joined (fields.map writeMember) ++ [125]) = none := by
    cases fields with
    | nil => exact absurd rfl hne
    | cons field fields =>
      cases fields with
      | nil => exact ⟨rfl, rfl⟩
      | cons _ _ => exact ⟨rfl, rfl⟩
  have hcontainer : container (member (scan rounds depth) rounds) '\x7d' rounds
      (joined (fields.map writeMember) ++ [125]) = .ok (fields, []) := by
    rw [container, hopen.1, hopen.2]
    exact hsequence
  rw [scan, show expect '\x7b' (123 :: (joined (fields.map writeMember) ++ [125])) =
    some (joined (fields.map writeMember) ++ [125]) from rfl]
  dsimp only
  rw [hcontainer, ok_bind]
  dsimp only
  rw [dictionary_of_nodup h.nodup]

/-! ## Bytes of ASCII -/

/-- A text of ASCII characters. -/
def Ascii (s : Points) : Prop := ∀ c ∈ s, c < 128

theorem toNat_ofNat {c : Nat} (h : c < 128) : (UInt8.ofNat c).toNat = c := by
  rw [UInt8.toNat_ofNat']
  exact Nat.mod_eq_of_lt (by omega)

theorem encodeUtf8_of_ascii {s : Points} (h : Ascii s) :
    encodeUtf8 s = .ok (s.map UInt8.ofNat) := by
  have hpoint : ∀ c ∈ s, encodePoint c = .ok [UInt8.ofNat c] := by
    intro c hc
    have hlt := h c hc
    rw [encodePoint, if_neg (by rw [isSurrogate]; omega), if_pos (by omega)]
  rw [encodeUtf8, mapM_eq_ok_of_forall hpoint]
  show Except.ok (s.map fun c => [UInt8.ofNat c]).flatten = _
  rw [← List.flatMap_def, ← List.map_eq_flatMap]

theorem decodeUtf8_of_ascii {s : Points} (h : Ascii s) :
    decodeUtf8 (s.map UInt8.ofNat) = some s := by
  induction s with
  | nil => rfl
  | cons c s ih =>
    have hc := h c List.mem_cons_self
    have hmore := ih fun d hd => h d (List.mem_cons_of_mem _ hd)
    cases s with
    | nil =>
      rw [List.map_cons, List.map_nil, decodeUtf8, toNat_ofNat hc, if_pos hc]
    | cons d s =>
      rw [List.map_cons, List.map_cons, decodeUtf8.eq_def]
      dsimp only
      rw [toNat_ofNat hc, if_pos hc, ← List.map_cons, hmore]
      rfl

/-- Bytes that start like an object in UTF-8. -/
theorem decodeBytes_object (bytes : List UInt8) :
    decodeBytes (123 :: 34 :: bytes) = decodeUtf8 (123 :: 34 :: bytes) := by
  cases bytes with
  | nil => rfl
  | cons b2 bytes =>
    cases bytes with
    | nil => rfl
    | cons b3 bytes => rfl

theorem ascii_write {value : Value} (h : Flat value) : Ascii (write value) := by
  intro c hc
  cases h with
  | @text s hplain =>
    rw [write, quoted_of_plain hplain, List.mem_cons, List.mem_append, List.mem_singleton] at hc
    rcases hc with rfl | hc | rfl
    · decide
    · exact (hplain c hc).2.1
    · decide
  | @integer n hfew =>
    have hwrite : write (.integer n) = digits n := points_toString n
    have hdigit := isDigit_of_mem_digits c (hwrite ▸ hc)
    rw [isDigit, Bool.and_eq_true, decide_eq_true_iff, decide_eq_true_iff] at hdigit
    omega

theorem FlatFields.ascii {fields : List (Points × Value)} (h : FlatFields fields) :
    Ascii (write (.object fields)) := by
  intro c hc
  rw [write_object h.ordered, List.mem_cons, List.mem_append, List.mem_singleton] at hc
  rcases hc with rfl | hc | rfl
  · decide
  · rcases mem_joined hc with rfl | ⟨text, htext, hc⟩
    · decide
    · obtain ⟨field, hfield, rfl⟩ := List.mem_map.mp htext
      obtain ⟨hkey, hvalue⟩ := h.flat field hfield
      rw [writeMember, List.mem_append, List.mem_cons] at hc
      rcases hc with hc | rfl | hc
      · exact ascii_write (.text hkey) c hc
      · decide
      · exact ascii_write hvalue c hc
  · decide

/-- **A flat object is read back from its bytes.** -/
theorem loads_write {fields : List (Points × Value)} (h : FlatFields fields) (hne : fields ≠ [])
    (depth : Nat) :
    loads (depth + 1) ((write (.object fields)).map UInt8.ofNat) = .ok (.object fields) := by
  have hstart : ∃ rest, write (.object fields) = 123 :: 34 :: rest := by
    rw [write_object h.ordered]
    cases fields with
    | nil => exact absurd rfl hne
    | cons field fields =>
      cases fields with
      | nil => exact ⟨_, rfl⟩
      | cons _ _ => exact ⟨_, rfl⟩
  obtain ⟨rest, hrest⟩ := hstart
  have hdecoded : decodeBytes ((write (.object fields)).map UInt8.ofNat) =
      some (write (.object fields)) := by
    rw [← decodeUtf8_of_ascii h.ascii, hrest]
    exact decodeBytes_object _
  have hskip : skip (write (.object fields)) = write (.object fields) := by
    rw [hrest]
    rfl
  rw [loads, hdecoded]
  dsimp only
  rw [hskip, scan_object h hne depth _ (Nat.lt_succ_self _), ok_bind]
  rfl

end PythonJson
