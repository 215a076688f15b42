/-
# The registry

Every handle that was ever made, in the order of making, and the live ones among them by
identifier. A handle is referred to by its place in that order, so that two references are to the
same handle exactly when they are equal. The order of the entries has no meaning.
-/
import WindowSystem.Bridge.Handle
import WindowSystem.Journal

namespace WindowSystem

/-- A reference to a handle: how many handles were made before it. -/
abbrev HandleRef := Nat

/-- The handles of a bridge. -/
structure Registry (S : Type) where
  handles : List (Handle S) := []
  entries : List (WindowId × HandleRef) := []

namespace Registry

variable {S : Type}

/-! ## Handles -/

/-- The state of a handle. -/
def handle (r : Registry S) (h : HandleRef) : Handle S := r.handles.getD h .destroyed

/-- Puts a handle into another state. -/
def setHandle (r : Registry S) (h : HandleRef) (state : Handle S) : Registry S :=
  { r with handles := r.handles.set h state }

/-- Destroys a handle. -/
def tombstone (r : Registry S) (h : HandleRef) : Registry S := r.setHandle h .destroyed

/-! ## Entries -/

/-- The handle entered under an identifier. -/
def resolve (r : Registry S) (id : WindowId) : Option HandleRef :=
  (r.entries.find? fun entry => entry.1 = id).map Prod.snd

/-- The entries under other identifiers. -/
def entriesWithout (r : Registry S) (id : WindowId) : List (WindowId × HandleRef) :=
  r.entries.filter fun entry => entry.1 ≠ id

/-- Makes the handle of a new window and enters it. A handle that was entered under the same
identifier loses its entry and is given back as it is. -/
def insert (r : Registry S) (id : WindowId) : (HandleRef × Option HandleRef) × Registry S :=
  let h := r.handles.length
  ((h, r.resolve id),
   { handles := r.handles ++ [.fresh id]
     entries := r.entriesWithout id ++ [(id, h)] })

/-- Takes the entry under an identifier out. -/
def remove (r : Registry S) (id : WindowId) : Registry S :=
  { r with entries := r.entriesWithout id }

/-- The number of entries. -/
def size (r : Registry S) : Nat := r.entries.length

/-- Orders optional identifiers by number, with an absent one before all. -/
def idLe : Option WindowId → Option WindowId → Bool
  | none, _ => true
  | some _, none => false
  | some a, some b => a.le b

/-- The entered handles, ordered by identifier. -/
def windows (r : Registry S) : List HandleRef :=
  (r.entries.map Prod.snd).mergeSort fun a b => idLe (r.handle a).id? (r.handle b).id?

/-- Enters the handle of a new window, with a warning if its identifier was taken. -/
def enter (id : WindowId) : Step Note (Registry S) (HandleRef × Option HandleRef) := do
  let (answer, entered) := (← Step.get).insert id
  Step.modify fun _ => entered
  if answer.2.isSome then
    Note.say .warn
      ("Backend reused live window id " ++ id.text ++ "; previous handle invalidated")
  pure answer

/-! ## Laws -/

@[simp]
theorem handles_remove (r : Registry S) (id : WindowId) : (r.remove id).handles = r.handles := rfl

@[simp]
theorem resolve_remove_self (r : Registry S) (id : WindowId) : (r.remove id).resolve id = none := by
  simp [resolve, remove, entriesWithout, List.find?_filter]

theorem resolve_remove_of_ne {r : Registry S} {id other : WindowId} (h : other ≠ id) :
    (r.remove id).resolve other = r.resolve other := by
  simp only [resolve, remove, entriesWithout, List.find?_filter]
  congr 2
  funext entry
  by_cases he : entry.1 = other
  · simp [he, h]
  · simp [he]

end Registry

end WindowSystem
