/-
# RON values: decoding

Readers of single RON values. What a number means depends on what is wanted.
-/
import WindowSystem.Ron.Reader

namespace WindowSystem.Ron

namespace Term

/-! ## Values -/

/-- An unsigned word of a given width. -/
def word? (width : Nat) : Term → Option Nat
  | number literal => (natural? literal).filter (· < twoTo width)
  | _ => none

def double? : Term → Option Double
  | number literal => Ron.double? literal
  | _ => none

def bool? : Term → Option Bool
  | bool b => some b
  | _ => none

def text? : Term → Option String
  | text s => some s
  | _ => none

/-- A value of a vocabulary, by name. -/
def named? {α : Type} [Vocabulary α] : Term → Option α
  | name s => Vocabulary.ofName? s
  | _ => none

/-- A list whose every item is read by `f`. -/
def listOf? {α : Type} (f : Term → Option α) : Term → Option (List α)
  | list items => items.mapM f
  | _ => none

/-- An optional value. Where the extension is on, a value without the mark is present. -/
def option? {α : Type} (extensions : Extensions) (f : Term → Option α) : Term → Option (Option α)
  | absent => some none
  | present t => (f t).map some
  | t => if extensions.implicitSome then (f t).map some else none

/-- The fields of a structure, which may bear one given name. Empty parentheses hold no
fields. -/
def fields? (title : String) : Term → Option (List (String × Term))
  | struct given fields => if given.all (· == title) then some fields else none
  | tuple given [] => if given.all (· == title) then some [] else none
  | _ => none

/-- The field of a given name, read by `f`; a default where there is none, a failure where there
are two. -/
def field? {α : Type} (f : Term → Option α) (default : α) (fields : List (String × Term))
    (key : String) : Option α :=
  match fields.filter fun field => field.1 == key with
  | [] => some default
  | [(_, t)] => f t
  | _ => none

end Term

end WindowSystem.Ron
