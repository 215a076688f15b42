/-
# Slot tables

Windows by identifier, in slots that are used again. An identifier holds the number of a slot in
its low half and the slot's version in its high half; the version goes up whenever the slot is
filled or emptied, so that it is odd while the slot is filled. The slot freed last is filled
first. Of an identifier that comes from outside only the odd version counts: its lowest version
bit is taken as set.
-/
import WindowSystem.Identity

namespace WindowSystem

/-- A place for one value, with the number of times it was filled or emptied. -/
structure Slot (α : Type) where
  version : UInt32
  content : Option α
  deriving Repr

/-- Values in slots that are used again. Slots are numbered from one. -/
structure SlotTable (α : Type) where
  slots : List (Slot α) := []
  /-- The places of the free slots, the one freed last first. -/
  free : List Nat := []
  deriving Repr

namespace SlotTable

variable {α : Type}

/-! ## Identifiers -/

/-- The identifier of what was put at a place when its slot took a version. -/
def key (place : Nat) (version : UInt32) : WindowId :=
  ⟨UInt64.ofNat (version.toNat * UInt32.size + (place + 1))⟩

/-- The place that an identifier names; there is no slot with number zero. -/
def place? (id : WindowId) : Option Nat :=
  match id.number.toNat % UInt32.size with
  | 0 => none
  | n + 1 => some n

/-- The version that an identifier names. -/
def version (id : WindowId) : UInt32 :=
  UInt32.ofNat (id.number.toNat / UInt32.size) ||| 1

/-! ## Reading -/

/-- The value under an identifier. -/
def get? (t : SlotTable α) (id : WindowId) : Option α := do
  let place ← place? id
  let slot ← t.slots[place]?
  if slot.version = version id then slot.content else none

/-- Whether there is a value under an identifier. -/
def contains (t : SlotTable α) (id : WindowId) : Bool := (t.get? id).isSome

/-- The values with their identifiers, in the order of the slots. -/
def toList (t : SlotTable α) : List (WindowId × α) :=
  t.slots.zipIdx.filterMap fun (slot, place) =>
    slot.content.map fun a => (key place slot.version, a)

/-- The number of values. -/
def size (t : SlotTable α) : Nat := t.toList.length

/-! ## Changing -/

/-- The version of the slot at a place. -/
def versionAt (t : SlotTable α) (place : Nat) : UInt32 :=
  (t.slots[place]?.map Slot.version).getD 0

/-- Puts a value into the slot freed last, or into a new one, and gives its identifier. -/
def insert (t : SlotTable α) (a : α) : WindowId × SlotTable α :=
  match t.free with
  | place :: rest =>
    let version := t.versionAt place + 1
    (key place version, ⟨t.slots.set place ⟨version, some a⟩, rest⟩)
  | [] => (key t.slots.length 1, ⟨t.slots ++ [⟨1, some a⟩], []⟩)

/-- Replaces the value under an identifier. -/
def set (t : SlotTable α) (id : WindowId) (a : α) : SlotTable α :=
  match place? id, t.get? id with
  | some place, some _ => { t with slots := t.slots.set place ⟨version id, some a⟩ }
  | _, _ => t

/-- Empties the slot of an identifier. -/
def remove (t : SlotTable α) (id : WindowId) : SlotTable α :=
  match place? id, t.get? id with
  | some place, some _ =>
    ⟨t.slots.set place ⟨version id + 1, none⟩, place :: t.free⟩
  | _, _ => t

/-- An empty table holds nothing. -/
@[simp]
theorem get?_empty (id : WindowId) : ({} : SlotTable α).get? id = none := by
  simp only [get?]
  cases place? id <;> simp

end SlotTable

end WindowSystem
