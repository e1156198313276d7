import OnchainBacktest.Lib.Checked

/-!
# Documents

What a structured text stands for: numbers, texts, truth values, lists and dictionaries, with no
floating point.  A dictionary is given by its entries in the order of their keys, so there is one
list for each of them and two dictionaries are the same when their documents are equal.  A value
of any other type is `other`: no reader accepts it, and it is only ever compared.

The readers refuse a value of the wrong type.  The fault they raise is a parameter, `raise`, given
the message; what they accept is what the document holds, by definition.
-/

set_option autoImplicit false

namespace Checked

universe u

/-- A value of a structured text. -/
inductive Document
  | null
  | boolean (value : Bool)
  | integer (value : Int)
  | text (value : String)
  | array (items : List Document)
  | object (fields : List (String × Document))
  | other (tag : Nat)

namespace Document

/-! ## Equality -/

mutual

/-- Whether two documents are the same. -/
def same : Document → Document → Bool
  | null, null => true
  | boolean a, boolean b => a == b
  | integer a, integer b => a == b
  | text a, text b => a == b
  | array xs, array ys => sameItems xs ys
  | object xs, object ys => sameFields xs ys
  | other a, other b => a == b
  | _, _ => false

def sameItems : List Document → List Document → Bool
  | [], [] => true
  | x :: xs, y :: ys => same x y && sameItems xs ys
  | _, _ => false

def sameFields : List (String × Document) → List (String × Document) → Bool
  | [], [] => true
  | (k, x) :: xs, (l, y) :: ys => k == l && same x y && sameFields xs ys
  | _, _ => false

end

mutual

theorem same_iff : ∀ a b : Document, same a b = true ↔ a = b
  | null, b => by cases b <;> simp [same]
  | boolean _, b => by cases b <;> simp [same]
  | integer _, b => by cases b <;> simp [same]
  | text _, b => by cases b <;> simp [same]
  | array xs, b => by cases b <;> simp [same, sameItems_iff xs]
  | object xs, b => by cases b <;> simp [same, sameFields_iff xs]
  | other _, b => by cases b <;> simp [same]

theorem sameItems_iff : ∀ xs ys : List Document, sameItems xs ys = true ↔ xs = ys
  | [], ys => by cases ys <;> simp [sameItems]
  | x :: xs, ys => by cases ys <;> simp [sameItems, same_iff x, sameItems_iff xs]

theorem sameFields_iff : ∀ xs ys : List (String × Document), sameFields xs ys = true ↔ xs = ys
  | [], ys => by cases ys <;> simp [sameFields]
  | (k, x) :: xs, ys => by
    cases ys <;> simp [sameFields, same_iff x, sameFields_iff xs, Prod.ext_iff, and_assoc]

end

instance : DecidableEq Document := fun a b => decidable_of_iff _ (same_iff a b)

/-! ## Readers -/

variable {ε : Type u} (raise : String → ε)

/-- The entries of an object. -/
def readObject (value : Document) (field : String) : Except ε (List (String × Document)) :=
  match value with
  | object fields => .ok fields
  | _ => .error (raise (field ++ " must be an object"))

def readText (value : Document) (field : String) : Except ε String :=
  match value with
  | text value => .ok value
  | _ => .error (raise (field ++ " must be a string"))

def readInteger (value : Document) (field : String) : Except ε Int :=
  match value with
  | integer value => .ok value
  | _ => .error (raise (field ++ " must be an integer"))

def readBoolean (value : Document) (field : String) : Except ε Bool :=
  match value with
  | boolean value => .ok value
  | _ => .error (raise (field ++ " must be a boolean"))

def readOptionalInteger (value : Document) (field : String) : Except ε (Option Int) :=
  match value with
  | null => .ok none
  | value => some <$> readInteger raise value field

/-- A count: an integer, refused with `negative` below zero. -/
def readCount (value : Document) (field : String) (negative : ε) : Except ε Nat := do
  let value ← readInteger raise value field
  refuseIf (value < 0) negative
  .ok value.toNat

def readOptionalCount (value : Document) (field : String) (negative : ε) :
    Except ε (Option Nat) :=
  match value with
  | null => .ok none
  | value => some <$> readCount raise value field negative

/-- The items of a list. -/
def readArray (value : Document) (field : String) : Except ε (List Document) :=
  match value with
  | array items => .ok items
  | _ => .error (raise (field ++ " must be an array"))

/-- What is read when there is something to read. -/
def readOptional {α : Type} (read : Document → Except ε α) (value : Document) :
    Except ε (Option α) :=
  match value with
  | null => .ok none
  | value => some <$> read value

/-- The member of an enumeration with a given spelling. -/
def readMember {α : Type} (members : List α) (spell : α → String) (kind value : String) :
    Except ε α :=
  match members.find? fun member => spell member == value with
  | some member => .ok member
  | none => .error (raise ("'" ++ value ++ "' is not a valid " ++ kind))

/-- An entry of an object that has the key. -/
def entry (fields : List (String × Document)) (key : String) : Document :=
  (fields.lookup key).getD null

/-! ## Writers -/

def optionalInteger (value : Option Int) : Document := value.elim null integer

def count (value : Nat) : Document := integer value

def optionalCount (value : Option Nat) : Document := value.elim null count

/-- What is written when there is something to write. -/
def optional {α : Type} (write : α → Document) (value : Option α) : Document := value.elim null write

section

variable {raise} {field : String} {negative : ε}

@[simp] theorem readText_text (s : String) : readText raise (text s) field = .ok s := rfl

@[simp] theorem readInteger_integer (i : Int) :
    readInteger raise (integer i) field = .ok i := rfl

@[simp] theorem readBoolean_boolean (b : Bool) :
    readBoolean raise (boolean b) field = .ok b := rfl

@[simp] theorem readObject_object (fields : List (String × Document)) :
    readObject raise (object fields) field = .ok fields := rfl

@[simp] theorem readOptionalInteger_optionalInteger (i : Option Int) :
    readOptionalInteger raise (optionalInteger i) field = .ok i := by
  cases i <;> rfl

@[simp] theorem readArray_array (items : List Document) :
    readArray raise (array items) field = .ok items := rfl

@[simp] theorem readCount_count (n : Nat) :
    readCount raise (count n) field negative = .ok n := by
  rw [readCount, count, readInteger_integer, ok_bind,
    refuseIf_of_not (not_lt.mpr (Int.natCast_nonneg n)), ok_bind, Int.toNat_natCast]

@[simp] theorem readOptionalCount_optionalCount (n : Option Nat) :
    readOptionalCount raise (optionalCount n) field negative = .ok n := by
  cases n with
  | none => rfl
  | some n =>
    have h : readCount raise (count n) field negative = .ok n := readCount_count n
    rw [show optionalCount (some n) = count n from rfl]
    exact congrArg (some <$> ·) h

/-- What is written as a dictionary is read back when there is something to read. -/
theorem readOptional_optional {α : Type} {read : Document → Except ε α}
    {fields : α → List (String × Document)} {value : Option α}
    (h : ∀ a ∈ value, read (object (fields a)) = .ok a) :
    readOptional read (optional (fun a => object (fields a)) value) = .ok value := by
  cases value with
  | none => rfl
  | some a =>
    rw [show optional (fun a => object (fields a)) (some a) = object (fields a) from rfl]
    exact congrArg (some <$> ·) (h a rfl)

end

end Document

end Checked
