/-
# Graphics backends

What the bridge asks of a graphics backend: to make a surface of a drawable and to release it.
-/
import WindowSystem.Journal

namespace WindowSystem

/-- A graphics backend whose state is a `G` and whose surfaces are of type `S`. -/
class GraphicsBackend (G : Type) (S : outParam Type) where
  wrap : Drawable → Step Note G (Except BackendError S)
  release : S → Step Note G Unit
  /-- What happens when the backend itself goes away. -/
  close : Step Note G Unit

end WindowSystem
