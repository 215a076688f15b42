/-
# A graphics backend chosen at run time

One of the graphics backends, where which one is known only when the program runs.
-/
import WindowSystem.Offscreen.Graphics
import WindowSystem.Scripted.Graphics
import WindowSystem.Vulkan.Graphics

namespace WindowSystem

/-- One of the graphics backends. -/
inductive GraphicsChoice where
  | offscreen (g : Offscreen.Graphics)
  | vulkan (g : Vulkan.Graphics)
  | scripted (g : Scripted.Graphics)

namespace GraphicsChoice

/-- A surface of one of the graphics backends. -/
inductive Surface where
  | offscreen (surface : Offscreen.Surface)
  | vulkan (surface : Vulkan.Surface)
  | scripted (serial : Nat)
  deriving DecidableEq, Repr

/-- Does the same to whichever backend was chosen. -/
def each {α : Type} (offscreen : Step Note Offscreen.Graphics α)
    (vulkan : Step Note Vulkan.Graphics α) (scripted : Step Note Scripted.Graphics α) :
    Step Note GraphicsChoice α
  | .offscreen g => let o := offscreen.run g; ⟨o.answer, .offscreen o.state, o.journal⟩
  | .vulkan g => let o := vulkan.run g; ⟨o.answer, .vulkan o.state, o.journal⟩
  | .scripted g => let o := scripted.run g; ⟨o.answer, .scripted o.state, o.journal⟩

end GraphicsChoice

open GraphicsChoice in
instance : GraphicsBackend GraphicsChoice Surface where
  wrap drawable :=
    each (Except.map .offscreen <$> GraphicsBackend.wrap drawable)
      (Except.map .vulkan <$> GraphicsBackend.wrap drawable)
      (Except.map .scripted <$> GraphicsBackend.wrap drawable)
  release surface :=
    match surface with
    | .offscreen s => each (GraphicsBackend.release s) (pure ()) (pure ())
    | .vulkan s => each (pure ()) (GraphicsBackend.release s) (pure ())
    | .scripted s => each (pure ()) (pure ()) (GraphicsBackend.release s)
  close := each GraphicsBackend.close GraphicsBackend.close GraphicsBackend.close

end WindowSystem
