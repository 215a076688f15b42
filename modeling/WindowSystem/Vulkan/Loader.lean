/-
# The Vulkan loader

A loader that makes instances and surfaces by counting them, and notes each call. It can be set to
fail.
-/
import WindowSystem.Journal
import WindowSystem.Vulkan.Result

namespace WindowSystem.Vulkan

/-- The state of the loader. -/
structure Loader where
  /-- How many instances were made. -/
  instances : Nat := 0
  /-- How many surfaces were made. -/
  surfaces : Nat := 0
  /-- How instance creation ends. -/
  instanceResult : ResultCode := .success
  /-- How surface creation ends. -/
  surfaceResult : ResultCode := .success

namespace Loader

/-- Makes an instance. -/
def createInstance (application : Option Application) (extensions : List String) :
    Step Note Loader (Except ResultCode Nat) := do
  let l ← Step.get
  if l.instanceResult = .success then
    let n := l.instances + 1
    Step.write (.vulkan (.createInstance application extensions (some n)))
    Step.modify fun l => { l with instances := n }
    pure (.ok n)
  else
    Step.write (.vulkan (.createInstance application extensions none))
    pure (.error l.instanceResult)

def destroyInstance (n : Nat) : Step Note Loader Unit :=
  Step.write (.vulkan (.destroyInstance n))

/-- Makes a surface on an instance for a window. -/
def createSurface (kind : SurfaceKind) (on : Nat) (window : UInt32) :
    Step Note Loader (Except ResultCode Nat) := do
  let l ← Step.get
  if l.surfaceResult = .success then
    let n := l.surfaces + 1
    Step.write (.vulkan (.createSurface kind on window (some n)))
    Step.modify fun l => { l with surfaces := n }
    pure (.ok n)
  else
    Step.write (.vulkan (.createSurface kind on window none))
    pure (.error l.surfaceResult)

def destroySurface (on n : Nat) : Step Note Loader Unit :=
  Step.write (.vulkan (.destroySurface on n))

end Loader

end WindowSystem.Vulkan
