/-
# Window managers

What the bridge asks of a window manager. A manager with state `N` creates and destroys windows,
hands out their drawables, applies changes, answers queries and reports events. A caller that
found no event waits with a token of type `W`, with which it looks again or gives up.
-/
import WindowSystem.Journal

namespace WindowSystem

/-- The result of looking for an answer: a token to wait with, or the answer. -/
inductive Poll (W α : Type) where
  | pending (wait : W)
  | ready (answer : α)
  deriving DecidableEq, Repr

/-- The answer of a look, if there was one. -/
def Poll.answer? {W α : Type} : Poll W α → Option α
  | .pending _ => none
  | .ready a => some a

/-- A window manager whose state is an `N`. -/
class WindowManager (N : Type) (W : outParam Type) where
  create : WindowAttributes → Step Note N (Except BackendError WindowId)
  destroy : WindowId → Step Note N Unit
  /-- The drawable of a window. -/
  drawable : WindowId → Step Note N (Except BackendError Drawable)
  update : WindowId → WindowChange → Step Note N (Except BackendError Unit)
  setDeviceFilter : DeviceFilter → Step Note N Unit
  query : (q : Query) → WindowId → Step Note N (Except BackendError q.Answer)
  /-- Looks for the next event, for the first time or with the token of an earlier look. -/
  poll : Option W → Step Note N (Poll W (Except BackendError RawEvent))
  /-- Gives up waiting for the next event. -/
  leave : W → Step Note N Unit
  /-- What happens when the manager itself goes away. -/
  close : Step Note N Unit

end WindowSystem
