/-
# Offscreen surfaces

A graphics backend for windows without a display. Every surface gets a fresh serial number, and
the backend keeps the serials of the surfaces that were not released.
-/
import WindowSystem.Surface.Backend

namespace WindowSystem.Offscreen

/-- An offscreen surface. -/
structure Surface where
  serial : UInt64
  drawable : UInt64
  deriving DecidableEq, Repr

/-- The state of the offscreen graphics backend. -/
structure Graphics where
  lastSerial : UInt64 := 0
  live : List UInt64 := []

namespace Graphics

/-- The number of surfaces made and not released. -/
def liveSurfaces (g : Graphics) : Nat := g.live.length

/-- Makes a surface of an offscreen drawable. -/
def wrap : Drawable → Step Note Graphics (Except BackendError Surface)
  | .platform .. =>
    pure (.error (.surfaceCreation "headless graphics can only wrap headless drawables"))
  | .offscreen drawable => do
    let serial := (← Step.get).lastSerial + 1
    Step.modify fun g =>
      { g with lastSerial := serial, live := serial :: g.live.filter (· ≠ serial) }
    pure (.ok ⟨serial, drawable⟩)

/-- Releases a surface. -/
def release (surface : Surface) : Step Note Graphics Unit := do
  if (← Step.get).live.contains surface.serial then
    Step.modify fun g => { g with live := g.live.filter (· ≠ surface.serial) }
  else
    Note.say .warn ("surface " ++ decimalText surface.serial.toNat ++ " released twice")

end Graphics

instance : GraphicsBackend Graphics Surface where
  wrap := Graphics.wrap
  release := Graphics.release
  close := pure ()

end WindowSystem.Offscreen
