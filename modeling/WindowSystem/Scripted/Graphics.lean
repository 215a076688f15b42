/-
# The scripted graphics backend

A graphics backend that fails when it is set to fail and otherwise numbers its surfaces. It notes
each request it receives.
-/
import WindowSystem.Surface.Backend

namespace WindowSystem.Scripted

/-- The script of a graphics backend and the last serial number it gave. -/
structure Graphics where
  failWrap : Option BackendError := none
  lastSerial : Nat := 0

namespace Graphics

/-- Gives the next serial number to a drawable. -/
def wrap (drawable : Drawable) : Step Note Graphics (Except BackendError Nat) := do
  Step.write (.graphics (.wrap drawable))
  let g ← Step.get
  match g.failWrap with
  | some e => pure (.error e)
  | none =>
    Step.modify fun g => { g with lastSerial := g.lastSerial + 1 }
    pure (.ok (g.lastSerial + 1))

end Graphics

instance : GraphicsBackend Graphics Nat where
  wrap := Graphics.wrap
  release serial := Step.write (.graphics (.release serial))
  close := pure ()

end WindowSystem.Scripted
