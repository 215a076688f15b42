/-
# Plain data

The self-describing values in which scripts hand over records and in which events are written:
what JSON can say, with integers apart from floating-point numbers. The readers of single fields
refuse what has the wrong shape.
-/
import WindowSystem.Number.Double
import WindowSystem.Vocabulary

namespace WindowSystem

/-- A self-describing value. The fields of a record keep their order. -/
inductive Datum where
  | null
  | bool (b : Bool)
  | int (n : Int)
  | float (x : Double)
  | text (s : String)
  | list (items : List Datum)
  | record (fields : List (String × Datum))
  deriving Repr, Inhabited

namespace Datum

/-! ## Building -/

/-- A natural number. -/
def nat (n : Nat) : Datum := .int n

/-- A value of a vocabulary, by its name in records. -/
def named {α : Type} [Vocabulary α] (a : α) : Datum := .text (Vocabulary.name a)

/-- An optional value, absent as null. -/
def ofOption {α : Type} (f : α → Datum) : Option α → Datum
  | none => .null
  | some a => f a

/-! ## Looking inside -/

/-- The value of a field of a list of fields. -/
def lookup (fields : List (String × Datum)) (key : String) : Option Datum :=
  (fields.find? fun field => field.1 == key).map Prod.snd

/-- The value of a field of a record. -/
def field? (key : String) : Datum → Option Datum
  | record fields => lookup fields key
  | _ => none

def isNull : Datum → Bool
  | null => true
  | _ => false

/-- Whether a value is a list or a record that holds nothing. -/
def isEmpty : Datum → Bool
  | list [] => true
  | record [] => true
  | _ => false

def bool? : Datum → Option Bool
  | bool b => some b
  | _ => none

def text? : Datum → Option String
  | text s => some s
  | _ => none

def list? : Datum → Option (List Datum)
  | list items => some items
  | _ => none

/-- An integer between two bounds. -/
def int? (low high : Int) : Datum → Option Int
  | int n => if low ≤ n ∧ n ≤ high then some n else none
  | _ => none

/-- A natural number below a power of two. -/
def word? (width : Nat) (d : Datum) : Option Nat :=
  (d.int? 0 (twoTo width - 1 : Nat)).map Int.toNat

def uint16? (d : Datum) : Option UInt16 := (d.word? 16).map UInt16.ofNat
def uint32? (d : Datum) : Option UInt32 := (d.word? 32).map UInt32.ofNat
def uint64? (d : Datum) : Option UInt64 := (d.word? 64).map UInt64.ofNat

def int32? (d : Datum) : Option Int32 :=
  (d.int? Int32.minValue.toInt Int32.maxValue.toInt).map Int32.ofInt

def int64? (d : Datum) : Option Int64 :=
  (d.int? Int64.minValue.toInt Int64.maxValue.toInt).map Int64.ofInt

/-- Any number, an integer as the nearest double. -/
def double? : Datum → Option Double
  | float x => some x
  | int n => some (Double.ofInt n)
  | _ => none

/-- A value of a vocabulary: its name, or a record of the name alone. Notations differ in what
they write beside a name that stands alone; `isNothing` recognises it. -/
def variant? {α : Type} [Vocabulary α] (isNothing : Datum → Bool) : Datum → Option α
  | text s => Vocabulary.ofName? s
  | record [(s, d)] => if isNothing d then Vocabulary.ofName? s else none
  | _ => none

/-- A value of a vocabulary, where null stands beside a name alone. -/
def named? {α : Type} [Vocabulary α] (d : Datum) : Option α := d.variant? isNull

/-- A list whose every item is read by `f`. -/
def listOf? {α : Type} (f : Datum → Option α) (d : Datum) : Option (List α) :=
  d.list?.bind fun items => items.mapM f

/-- An optional field of a list of fields: absent and null read as nothing. -/
def optional? {α : Type} (f : Datum → Option α) (fields : List (String × Datum)) (key : String) :
    Option (Option α) :=
  match lookup fields key with
  | none | some null => some none
  | some d => (f d).map some

/-- A field that must be there. -/
def required? {α : Type} (f : Datum → Option α) (fields : List (String × Datum)) (key : String) :
    Option α :=
  (lookup fields key).bind f

/-- A field that takes a default when it is absent. -/
def defaulted? {α : Type} (f : Datum → Option α) (default : α) (fields : List (String × Datum))
    (key : String) : Option α :=
  match lookup fields key with
  | none => some default
  | some d => f d

/-- The fields of a record, or of a list that gives the values of the first of some fields. -/
def fieldsOf? (names : List String) : Datum → Option (List (String × Datum))
  | record fields => some fields
  | list items => some (names.zip items)
  | _ => none

end Datum

end WindowSystem
