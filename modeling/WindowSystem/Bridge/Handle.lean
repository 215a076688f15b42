/-
# Window handles

What a script holds of a window. A handle is live, and then keeps the window's identifier, its
drawable once that was asked for, and its surface once one is bound; or it is destroyed, for good.
-/
import WindowSystem.Failure
import WindowSystem.Surface.Drawable

namespace WindowSystem

/-- A surface bound to a window, known by the order in which surfaces were made. -/
structure BoundSurface (S : Type) where
  number : Nat
  value : S
  deriving DecidableEq, Repr

/-- The state of a window handle. -/
inductive Handle (S : Type) where
  | live (id : WindowId) (drawable : Option Drawable) (surface : Option (BoundSurface S))
  | destroyed
  deriving Repr

namespace Handle

variable {S : Type}

/-- The handle of a window that was just created. -/
def fresh (id : WindowId) : Handle S := .live id none none

/-- The identifier of a live handle. -/
def id? : Handle S → Option WindowId
  | .live id _ _ => some id
  | .destroyed => none

/-- The drawable kept on a handle. -/
def drawable? : Handle S → Option Drawable
  | .live _ drawable _ => drawable
  | .destroyed => none

/-- The surface bound to a handle. -/
def surface? : Handle S → Option (BoundSurface S)
  | .live _ _ surface => surface
  | .destroyed => none

/-- Whether a handle is destroyed. -/
def isDestroyed (h : Handle S) : Bool := h.id?.isNone

/-- A handle without its surface. -/
def withoutSurface : Handle S → Handle S
  | .live id drawable _ => .live id drawable none
  | .destroyed => .destroyed

/-- The identifier of a live handle, or the failure of an operation on a destroyed one. Every
operation on a window takes the window as its first argument. -/
def liveId (operation : String) (h : Handle S) : Except BridgeError WindowId :=
  match h.id? with
  | some id => .ok id
  | none => .error (.invalidHandle operation 1)

/-- The description of a handle. -/
def label : Handle S → String
  | .live id _ surface =>
    "WindowHandle \x7b id: " ++ id.label ++ ", surface: " ++
      (if surface.isSome then "true" else "false") ++ " \x7d"
  | .destroyed => "WindowHandle(destroyed)"

@[simp]
theorem id?_fresh (id : WindowId) : (fresh id : Handle S).id? = some id := rfl

@[simp]
theorem id?_withoutSurface (h : Handle S) : h.withoutSurface.id? = h.id? := by
  cases h <;> rfl

@[simp]
theorem surface?_withoutSurface (h : Handle S) : h.withoutSurface.surface? = none := by
  cases h <;> rfl

end Handle

end WindowSystem
