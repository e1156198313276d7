import OnchainBacktest.Lib.PythonJson

/-!
# Rounds of the JSON reader

The loops of the reader are given a number of rounds.  Every reading consumes at least one
character, so with more rounds than characters none runs out of them: `scan_rounds`.
-/

set_option autoImplicit false

namespace PythonJson

open Checked

/-- Every reading consumes something. -/
def Consumes {α : Type} (read : Points → Except LoadsFault (α × Points)) : Prop :=
  ∀ cs item rest, read cs = .ok (item, rest) → rest.length < cs.length

section Rounds

variable {cs rest : Points} {rounds rounds' : Nat}

theorem length_skip (cs : Points) : (skip cs).length ≤ cs.length :=
  (List.dropWhile_sublist _).length_le

theorem length_of_expect {c : Char} (h : expect c cs = some rest) :
    cs.length = rest.length + 1 := by
  cases cs with
  | nil => cases h
  | cons d ds =>
    rw [expect] at h
    split at h
    · cases h
      rfl
    · cases h

theorem length_of_expectWord {word : String} (h : expectWord word cs = some rest) :
    cs.length = rest.length + (points word).length := by
  rw [expectWord] at h
  split at h
  · rename_i hprefix
    have hle := (List.isPrefixOf_iff_prefix.mp hprefix).length_le
    cases h
    rw [List.length_drop]
    omega
  · cases h

theorem length_of_keyword {value : Value} (h : keyword cs = some (value, rest)) :
    rest.length < cs.length := by
  obtain ⟨⟨word, value⟩, hmem, hread⟩ := List.exists_of_findSome?_eq_some h
  obtain ⟨after, hafter, hpair⟩ := Option.map_eq_some_iff.mp hread
  cases hpair
  have hlength := length_of_expectWord hafter
  have hpos : ∀ entry ∈ [("null", Value.null), ("true", .boolean true), ("false", .boolean false),
      ("NaN", .float), ("Infinity", .float), ("-Infinity", .float)],
      0 < (points entry.1).length := by
    simp [points]
  have hword := hpos _ hmem
  dsimp only at hword
  omega

theorem length_of_integerDigits {digits : Points} (h : integerDigits cs = some (digits, rest)) :
    rest.length < cs.length := by
  cases cs with
  | nil => cases h
  | cons c cs =>
    rw [integerDigits] at h
    split at h
    · cases h
      exact Nat.lt_succ_self _
    · split at h
      · rename_i hdigit
        cases h
        rw [List.dropWhile_cons, if_pos hdigit]
        exact Nat.lt_succ_of_le ((List.dropWhile_sublist _).length_le)
      · cases h

theorem length_of_afterDigits (h : afterDigits cs = some rest) : rest.length ≤ cs.length := by
  rw [afterDigits] at h
  split at h
  · cases h
  · cases h
    exact (List.dropWhile_sublist _).length_le

theorem length_fraction (cs : Points) : ((fraction cs).getD cs).length ≤ cs.length := by
  cases h : fraction cs with
  | none => exact le_refl _
  | some rest =>
    obtain ⟨after, hafter, hrest⟩ := Option.bind_eq_some_iff.mp h
    have hlength := length_of_expect hafter
    have hle := length_of_afterDigits hrest
    rw [Option.getD_some]
    omega

theorem length_expect_getD (c : Char) (cs : Points) :
    ((expect c cs).getD cs).length ≤ cs.length := by
  cases h : expect c cs with
  | none => exact le_refl _
  | some rest =>
    have hlength := length_of_expect h
    rw [Option.getD_some]
    omega

theorem length_exponent (cs : Points) : ((exponent cs).getD cs).length ≤ cs.length := by
  cases h : exponent cs with
  | none => exact le_refl _
  | some rest =>
    obtain ⟨signed, hsigned, hrest⟩ := Option.bind_eq_some_iff.mp h
    have hlength : cs.length = signed.length + 1 := by
      rcases Option.or_eq_some_iff.mp hsigned with he | ⟨-, he⟩
      · exact length_of_expect he
      · exact length_of_expect he
    have hsign : (((expect '+' signed).or (expect '-' signed)).getD signed).length
        ≤ signed.length := by
      cases hplus : expect '+' signed with
      | none => exact length_expect_getD '-' signed
      | some after =>
        have hafter := length_of_expect hplus
        rw [Option.some_or, Option.getD_some]
        omega
    have hle := length_of_afterDigits hrest
    rw [Option.getD_some]
    omega

theorem consumes_number : Consumes number := by
  intro cs value rest h
  rw [number] at h
  have hsign := length_expect_getD '-' cs
  cases hdigits : integerDigits ((expect '-' cs).getD cs) with
  | none =>
    rw [hdigits] at h
    cases h
  | some read =>
    obtain ⟨digits, after⟩ := read
    have hafter := length_of_integerDigits hdigits
    have hfraction := length_fraction after
    have hexponent := length_exponent ((fraction after).getD after)
    rw [hdigits] at h
    dsimp only at h
    split_ifs at h
    · cases h
      omega
    · cases h
      omega
    · cases h
      omega

theorem length_of_fourHex {point : Nat} (h : fourHex cs = some (point, rest)) :
    rest.length < cs.length := by
  rw [fourHex.eq_def] at h
  split at h
  · obtain ⟨a, -, h⟩ := Option.bind_eq_some_iff.mp h
    obtain ⟨b, -, h⟩ := Option.bind_eq_some_iff.mp h
    obtain ⟨c, -, h⟩ := Option.bind_eq_some_iff.mp h
    obtain ⟨d, -, h⟩ := Option.bind_eq_some_iff.mp h
    obtain ⟨-, rfl⟩ := Prod.mk.inj (Option.some.inj h)
    simp only [List.length_cons]
    omega
  · cases h

theorem length_of_escaped {point : Nat} (h : escaped cs = some (point, rest)) :
    rest.length < cs.length := by
  cases cs with
  | nil => cases h
  | cons c cs =>
    rw [escaped] at h
    split at h
    · obtain ⟨⟨high, after⟩, hhigh, h⟩ := Option.bind_eq_some_iff.mp h
      have hafter := length_of_fourHex hhigh
      dsimp only at h
      cases hlow : (expectWord "\\u" after).bind fourHex with
      | none =>
        rw [hlow] at h
        cases h
        exact hafter.trans (Nat.lt_succ_self _)
      | some read =>
        obtain ⟨digits, hdigits, hread⟩ := Option.bind_eq_some_iff.mp hlow
        have hword := length_of_expectWord hdigits
        have hlast := @length_of_fourHex digits read.2 read.1 hread
        rw [hlow] at h
        dsimp only at h
        rw [List.length_cons]
        split at h
        · obtain ⟨-, rfl⟩ := Prod.mk.inj (Option.some.inj h)
          omega
        · obtain ⟨-, rfl⟩ := Prod.mk.inj (Option.some.inj h)
          omega
    · obtain ⟨d, -, h⟩ := Option.map_eq_some_iff.mp h
      cases h
      exact Nat.lt_succ_self _

theorem length_of_characters {s : Points} (h : characters rounds cs = some (s, rest)) :
    rest.length < cs.length := by
  induction rounds generalizing cs s with
  | zero => cases h
  | succ rounds ih =>
    cases cs with
    | nil => cases h
    | cons c cs =>
      rw [characters] at h
      split_ifs at h
      · cases h
        exact Nat.lt_succ_self _
      · obtain ⟨⟨d, after⟩, hescaped, h⟩ := Option.bind_eq_some_iff.mp h
        obtain ⟨⟨more, last⟩, hmore, h⟩ := Option.bind_eq_some_iff.mp h
        cases h
        exact ((ih hmore).trans (length_of_escaped hescaped)).trans (Nat.lt_succ_self _)
      · obtain ⟨⟨more, last⟩, hmore, h⟩ := Option.bind_eq_some_iff.mp h
        cases h
        exact (ih hmore).trans (Nat.lt_succ_self _)

theorem characters_rounds (h : cs.length < rounds) (h' : cs.length < rounds') :
    characters rounds cs = characters rounds' cs := by
  induction rounds generalizing rounds' cs with
  | zero => simp at h
  | succ rounds ih =>
    cases rounds' with
    | zero => simp at h'
    | succ rounds' =>
      cases cs with
      | nil => rfl
      | cons c cs =>
        rw [List.length_cons] at h h'
        have hnext : characters rounds cs = characters rounds' cs := ih (by omega) (by omega)
        rw [characters, characters, hnext]
        cases hescaped : escaped cs with
        | none => rfl
        | some read =>
          obtain ⟨d, after⟩ := read
          have hafter := length_of_escaped hescaped
          have hsame : characters rounds after = characters rounds' after :=
            ih (by omega) (by omega)
          simp only [Option.bind_eq_bind, Option.bind_some, hsame]

theorem string_rounds (h : cs.length < rounds) (h' : cs.length < rounds') :
    string rounds cs = string rounds' cs := by
  rw [string, string, characters_rounds h h']

theorem consumes_string (rounds : Nat) : Consumes (string rounds) := by
  intro cs s rest h
  rw [string] at h
  split at h
  · cases h
  · rename_i hread
    cases h
    exact length_of_characters hread

theorem consumes_atom (rounds : Nat) : Consumes (atom rounds) := by
  intro cs value rest h
  rw [atom] at h
  cases hquote : expect '\"' cs with
  | some after =>
    rw [hquote] at h
    obtain ⟨⟨s, last⟩, hstring, h⟩ := bind_eq_ok.mp h
    cases h
    have hafter := length_of_expect hquote
    have hlast := consumes_string rounds after s rest hstring
    omega
  | none =>
    rw [hquote] at h
    dsimp only at h
    cases hword : keyword cs with
    | some read =>
      rw [hword] at h
      cases h
      exact length_of_keyword hword
    | none =>
      rw [hword] at h
      exact consumes_number cs value rest h

theorem atom_rounds (h : cs.length < rounds) (h' : cs.length < rounds') :
    atom rounds cs = atom rounds' cs := by
  rw [atom, atom]
  cases hquote : expect '\"' cs with
  | none => rfl
  | some after =>
    have hafter := length_of_expect hquote
    have hsame : string rounds after = string rounds' after :=
      string_rounds (by omega) (by omega)
    dsimp only
    rw [hsame]

variable {α : Type} {read read' : Points → Except LoadsFault (α × Points)} {close : Char}

theorem length_of_separator {closed : Bool} (h : separator close cs = .ok (closed, rest)) :
    rest.length < cs.length := by
  have hskip := length_skip cs
  rw [separator] at h
  cases hclose : expect close (skip cs) with
  | some after =>
    rw [hclose] at h
    cases h
    have hafter := length_of_expect hclose
    omega
  | none =>
    rw [hclose] at h
    dsimp only at h
    cases hcomma : expect ',' (skip cs) with
    | none =>
      rw [hcomma] at h
      cases h
    | some after =>
      rw [hcomma] at h
      cases h
      have hafter := length_of_expect hcomma
      have hlast := length_skip after
      omega

theorem Consumes.sequence (hread : Consumes read) (close : Char) (rounds : Nat) :
    Consumes (sequence read close rounds) := by
  intro cs items rest h
  induction rounds generalizing cs items with
  | zero => cases h
  | succ rounds ih =>
    rw [PythonJson.sequence] at h
    obtain ⟨⟨item, after⟩, hitem, h⟩ := bind_eq_ok.mp h
    obtain ⟨⟨closed, last⟩, hseparator, h⟩ := bind_eq_ok.mp h
    have hafter := hread cs item after hitem
    have hlast := length_of_separator hseparator
    dsimp only at h
    split at h
    · cases h
      omega
    · obtain ⟨⟨more, final⟩, hmore, h⟩ := bind_eq_ok.mp h
      cases h
      have hfinal := ih last more hmore
      omega

/-- A sequence does not depend on the rounds, when there are enough of them. -/
theorem sequence_rounds (hread : Consumes read) (h : cs.length < rounds) (h' : cs.length < rounds')
    (hsame : ∀ ds : Points, ds.length ≤ cs.length → read ds = read' ds) :
    sequence read close rounds cs = sequence read' close rounds' cs := by
  induction rounds generalizing rounds' cs with
  | zero => simp at h
  | succ rounds ih =>
    cases rounds' with
    | zero => simp at h'
    | succ rounds' =>
      rw [PythonJson.sequence, PythonJson.sequence, ← hsame cs le_rfl]
      cases hitem : read cs with
      | error fault => rfl
      | ok one =>
        obtain ⟨item, after⟩ := one
        have hafter := hread cs item after hitem
        rw [ok_bind, ok_bind]
        dsimp only
        cases hseparator : separator close after with
        | error fault => rfl
        | ok next =>
          obtain ⟨closed, last⟩ := next
          have hlast := length_of_separator hseparator
          have hmore : sequence read close rounds last = sequence read' close rounds' last :=
            ih (by omega) (by omega) fun ds hds => hsame ds (by omega)
          rw [ok_bind, ok_bind, hmore]

theorem Consumes.container (hread : Consumes read) (close : Char) (rounds : Nat) :
    Consumes (container read close rounds) := by
  intro cs items rest h
  have hskip := length_skip cs
  rw [PythonJson.container] at h
  cases hclose : expect close (skip cs) with
  | some after =>
    rw [hclose] at h
    cases h
    have hafter := length_of_expect hclose
    omega
  | none =>
    rw [hclose] at h
    have hlast := hread.sequence close rounds (skip cs) items rest h
    omega

theorem container_rounds (hread : Consumes read) (h : cs.length < rounds)
    (h' : cs.length < rounds') (hsame : ∀ ds : Points, ds.length ≤ cs.length → read ds = read' ds) :
    container read close rounds cs = container read' close rounds' cs := by
  have hskip := length_skip cs
  have hitems : sequence read close rounds (skip cs) = sequence read' close rounds' (skip cs) :=
    sequence_rounds hread (by omega) (by omega) fun ds hds => hsame ds (by omega)
  rw [container, container, hitems]

theorem Consumes.member {read : Points → Except LoadsFault (Value × Points)}
    (hread : Consumes read) (rounds : Nat) : Consumes (member read rounds) := by
  intro cs entry rest h
  rw [PythonJson.member] at h
  cases hquote : expect '\"' cs with
  | none =>
    rw [hquote] at h
    cases h
  | some after =>
    rw [hquote] at h
    obtain ⟨⟨key, last⟩, hkey, h⟩ := bind_eq_ok.mp h
    dsimp only at h
    cases hcolon : expect ':' (skip last) with
    | none =>
      rw [hcolon] at h
      cases h
    | some start =>
      rw [hcolon] at h
      obtain ⟨⟨value, final⟩, hvalue, h⟩ := bind_eq_ok.mp h
      obtain ⟨-, rfl⟩ := Prod.mk.inj (Except.ok.inj h)
      have hquoted := length_of_expect hquote
      have hlast := consumes_string rounds after key last hkey
      have hskip := length_skip last
      have hstart := length_of_expect hcolon
      have hskip' := length_skip start
      have hfinal := hread (skip start) value final hvalue
      dsimp only
      omega

theorem member_rounds {read read' : Points → Except LoadsFault (Value × Points)}
    (h : cs.length < rounds) (h' : cs.length < rounds')
    (hsame : ∀ ds : Points, ds.length ≤ cs.length → read ds = read' ds) :
    member read rounds cs = member read' rounds' cs := by
  rw [member, member]
  cases hquote : expect '\"' cs with
  | none => rfl
  | some after =>
    have hafter := length_of_expect hquote
    have hstring : string rounds after = string rounds' after :=
      string_rounds (by omega) (by omega)
    dsimp only
    rw [hstring]
    cases hkey : string rounds' after with
    | error fault => rfl
    | ok key =>
      have hlast := consumes_string rounds' after key.1 key.2 hkey
      rw [ok_bind, ok_bind]
      cases hcolon : expect ':' (skip key.2) with
      | none => rfl
      | some start =>
        have hskip := length_skip key.2
        have hstart := length_of_expect hcolon
        have hskip' := length_skip start
        dsimp only
        rw [hsame (skip start) (by omega)]

theorem consumes_scan (rounds : Nat) : ∀ depth, Consumes (scan rounds depth)
  | 0, cs, value, rest, h => by
    rw [scan] at h
    split at h
    · cases h
    · exact consumes_atom rounds cs value rest h
  | depth + 1, cs, value, rest, h => by
    rw [scan] at h
    cases hobject : expect '\x7b' cs with
    | some after =>
      rw [hobject] at h
      obtain ⟨⟨entries, last⟩, hentries, h⟩ := bind_eq_ok.mp h
      obtain ⟨-, rfl⟩ := Prod.mk.inj (Except.ok.inj h)
      have hafter := length_of_expect hobject
      have hlast := ((consumes_scan rounds depth).member rounds).container '\x7d' rounds after
        entries last hentries
      omega
    | none =>
      rw [hobject] at h
      dsimp only at h
      cases harray : expect '[' cs with
      | some after =>
        rw [harray] at h
        obtain ⟨⟨items, last⟩, hitems, h⟩ := bind_eq_ok.mp h
        obtain ⟨-, rfl⟩ := Prod.mk.inj (Except.ok.inj h)
        have hafter := length_of_expect harray
        have hlast := (consumes_scan rounds depth).container ']' rounds after items last hitems
        dsimp only
        omega
      | none =>
        rw [harray] at h
        exact consumes_atom rounds cs value rest h

/-- **No reading runs out of rounds.**  With more rounds than characters it is the same for every
number of them. -/
theorem scan_rounds (depth : Nat) (h : cs.length < rounds) (h' : cs.length < rounds') :
    scan rounds depth cs = scan rounds' depth cs := by
  induction depth generalizing cs with
  | zero => rw [scan, scan, atom_rounds h h']
  | succ depth ih =>
    have hsame : ∀ ds : Points, ds.length ≤ cs.length →
        scan rounds depth ds = scan rounds' depth ds := fun ds hds => ih (by omega) (by omega)
    rw [scan, scan, atom_rounds h h']
    cases hobject : expect '\x7b' cs with
    | some after =>
      have hafter := length_of_expect hobject
      have hentries : container (member (scan rounds depth) rounds) '\x7d' rounds after =
          container (member (scan rounds' depth) rounds') '\x7d' rounds' after := by
        refine container_rounds ((consumes_scan rounds depth).member rounds) (by omega)
          (by omega) fun ds hds => ?_
        exact member_rounds (by omega) (by omega) fun es hes => hsame es (by omega)
      dsimp only
      rw [hentries]
    | none =>
      cases harray : expect '[' cs with
      | some after =>
        have hafter := length_of_expect harray
        have hitems : container (scan rounds depth) ']' rounds after =
            container (scan rounds' depth) ']' rounds' after :=
          container_rounds (consumes_scan rounds depth) (by omega) (by omega)
            fun ds hds => hsame ds (by omega)
        dsimp only
        rw [hitems]
      | none => rfl

end Rounds

end PythonJson
