/-
# Data that is alike

When two values are the same JSON value: the order of the fields of a record does not matter, and
what counts as the same number is left open. From two values that are alike follows what their
parts say of each other.
-/
import Mathlib.Data.List.Forall2
import WindowSystem.Datum.Basic

namespace WindowSystem.Datum

/-! ## Values that are alike -/

/-- Values that are equal as JSON values, with numbers other than integers compared by `R`. The
order of the fields of a record does not matter. -/
inductive Alike (R : Double → Double → Prop) : Datum → Datum → Prop
  | null : Alike R .null .null
  | bool (b : Bool) : Alike R (.bool b) (.bool b)
  | int (n : Int) : Alike R (.int n) (.int n)
  | float {x y : Double} (h : R x y) : Alike R (.float x) (.float y)
  | text (s : String) : Alike R (.text s) (.text s)
  | list {items items' : List Datum} (h : List.Forall₂ (Alike R) items items') :
    Alike R (.list items) (.list items')
  | record {fields fields' : List (String × Datum)}
    (h : ∀ key, Option.Rel (Alike R) (lookup fields key) (lookup fields' key)) :
    Alike R (.record fields) (.record fields')

@[simp]
theorem lookup_nil (key : String) : lookup [] key = none := rfl

@[simp]
theorem lookup_cons (key name : String) (d : Datum) (fields : List (String × Datum)) :
    lookup ((name, d) :: fields) key = if name = key then some d else lookup fields key := by
  by_cases h : name = key
  · simp [lookup, h]
  · simp [lookup, h]

/-- A key that no field has is not found. -/
theorem lookup_eq_none {fields : List (String × Datum)} {key : String}
    (h : key ∉ fields.map Prod.fst) : lookup fields key = none := by
  rw [lookup, Option.map_eq_none_iff, List.find?_eq_none]
  intro field hfield hkey
  exact h (List.mem_map.mpr ⟨field, hfield, by simpa using hkey⟩)

mutual

theorem alike_self : ∀ d : Datum, Alike Eq d d
  | .null => .null
  | .bool b => .bool b
  | .int n => .int n
  | .float _ => .float rfl
  | .text s => .text s
  | .list items => .list (alike_self_items items)
  | .record fields => .record (alike_self_fields fields)

theorem alike_self_items : ∀ items : List Datum, List.Forall₂ (Alike Eq) items items
  | [] => .nil
  | d :: rest => .cons (alike_self d) (alike_self_items rest)

theorem alike_self_fields : ∀ (fields : List (String × Datum)) (key : String),
    Option.Rel (Alike Eq) (lookup fields key) (lookup fields key)
  | [], _ => .none
  | (name, d) :: rest, key => by
    rw [lookup_cons]
    split
    · exact .some (alike_self d)
    · exact alike_self_fields rest key

end

/-! ## What follows for the parts -/

namespace Alike

variable {R : Double → Double → Prop} {fields fields' : List (String × Datum)} {d d' : Datum}

/-- Records that are alike have the same keys. -/
theorem isSome_eq (h : Alike R (.record fields) (.record fields')) (key : String) :
    (lookup fields key).isSome = (lookup fields' key).isSome := by
  cases h with
  | record h =>
    have hkey := h key
    revert hkey
    generalize lookup fields key = v
    generalize lookup fields' key = w
    intro hkey
    cases hkey with
    | some => rfl
    | none => rfl

/-- The values under one key are alike. -/
theorem field (h : Alike R (.record fields) (.record fields')) (key : String)
    (hd : lookup fields key = some d) (hd' : lookup fields' key = some d') : Alike R d d' := by
  cases h with
  | record h =>
    have hkey := h key
    rw [hd, hd'] at hkey
    cases hkey with
    | some h => exact h

/-- Records are still alike without a first field whose key occurs once. -/
theorem tail {name : String} (hfresh : name ∉ fields.map Prod.fst)
    (hfresh' : name ∉ fields'.map Prod.fst)
    (h : Alike R (.record ((name, d) :: fields)) (.record ((name, d') :: fields'))) :
    Alike R (.record fields) (.record fields') := by
  cases h with
  | record h =>
    refine .record fun key => ?_
    -- under the key of the first field nothing is left, under the others all is as before
    by_cases hkey : name = key
    · rw [← hkey, lookup_eq_none hfresh, lookup_eq_none hfresh']
      exact .none
    · have hrest := h key
      rw [lookup_cons, lookup_cons, if_neg hkey, if_neg hkey] at hrest
      exact hrest

theorem number {x y : Double} (h : Alike R (.float x) (.float y)) : R x y := by
  cases h with
  | float h => exact h

theorem int_eq {m n : Int} (h : Alike R (.int m) (.int n)) : m = n := by
  cases h
  rfl

theorem nat_eq {m n : Nat} (h : Alike R (.nat m) (.nat n)) : m = n :=
  Int.ofNat.inj (int_eq h)

theorem bool_eq {b c : Bool} (h : Alike R (.bool b) (.bool c)) : b = c := by
  cases h
  rfl

theorem text_eq {s t : String} (h : Alike R (.text s) (.text t)) : s = t := by
  cases h
  rfl

theorem pair {a b : Datum} (h : Alike R (.list [d, a]) (.list [d', b])) :
    Alike R d d' ∧ Alike R a b := by
  cases h with
  | list h =>
    cases h with
    | cons hfirst h =>
      cases h with
      | cons hsecond _ => exact ⟨hfirst, hsecond⟩

/-- Optional values are both absent or both there. -/
theorem option {α : Type} {f : α → Datum} {S : α → α → Prop} (hnull : ∀ a, f a ≠ .null)
    (hread : ∀ {a b}, Alike R (f a) (f b) → S a b) {v w : Option α}
    (h : Alike R (ofOption f v) (ofOption f w)) : Option.Rel S v w := by
  -- an absent value is null, and no value that is there is
  have hno : ∀ {a : α}, ¬ Alike R .null (f a) ∧ ¬ Alike R (f a) .null := by
    intro a
    generalize hd : f a = d
    have hne := hnull a
    rw [hd] at hne
    constructor
    · intro h
      cases h
      exact hne rfl
    · intro h
      cases h
      exact hne rfl
  cases v with
  | none =>
    cases w with
    | none => exact .none
    | some b => exact absurd h hno.1
  | some a =>
    cases w with
    | none => exact absurd h hno.2
    | some b => exact .some (hread h)

theorem option_eq {α : Type} {f : α → Datum} (hnull : ∀ a, f a ≠ .null)
    (hread : ∀ {a b}, Alike R (f a) (f b) → a = b) {v w : Option α}
    (h : Alike R (ofOption f v) (ofOption f w)) : v = w := by
  have hrel : Option.Rel Eq v w := option hnull hread h
  cases hrel with
  | none => rfl
  | some heq => rw [heq]

end Alike

end WindowSystem.Datum
