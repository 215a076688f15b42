/-
# Vulkan calls

The calls that a Vulkan graphics backend makes to the loader. Instances and surfaces are known by
the order in which they were made.
-/

namespace WindowSystem.Vulkan

/-- What an instance is told about the application. -/
structure Application where
  name : String
  applicationVersion : Nat
  apiVersion : Nat
  deriving DecidableEq, Repr

/-- The window systems whose surfaces the loader makes. -/
inductive SurfaceKind where
  | xlib | xcb | wayland
  deriving DecidableEq, Repr

/-- A call to the loader. A creation that succeeded has the number of what it made. -/
inductive Call where
  | createInstance (application : Option Application) (extensions : List String)
      (made : Option Nat)
  | destroyInstance (made : Nat)
  | createSurface (kind : SurfaceKind) (on : Nat) (window : UInt32) (made : Option Nat)
  | destroySurface (on : Nat) (made : Nat)
  deriving DecidableEq, Repr

end WindowSystem.Vulkan
