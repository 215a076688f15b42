/-
# The Vulkan graphics backend

Makes Vulkan surfaces of native drawables, on an instance of its own or on one that belongs to
someone else. Its own instance is destroyed with it.
-/
import WindowSystem.Surface.Backend
import WindowSystem.Vulkan.Loader

namespace WindowSystem.Vulkan

/-- A Vulkan surface, by its number. -/
structure Surface where
  number : Nat
  deriving DecidableEq, Repr

/-- The state of the Vulkan graphics backend. -/
structure Graphics where
  loader : Loader
  /-- The instance on which surfaces are made. -/
  onInstance : Nat
  /-- Whether the instance belongs to the backend. -/
  ownsInstance : Bool

namespace Graphics

/-! ## Window systems -/

/-- The extensions with which surfaces of a window system are presented, if there are any. -/
def extensions? : Platform → Option (List String)
  | .xlib => some ["VK_KHR_surface", "VK_KHR_xlib_surface"]
  | .xcb => some ["VK_KHR_surface", "VK_KHR_xcb_surface"]
  | .wayland => some ["VK_KHR_surface", "VK_KHR_wayland_surface"]
  | .windows => some ["VK_KHR_surface", "VK_KHR_win32_surface"]
  | .android => some ["VK_KHR_surface", "VK_KHR_android_surface"]
  | .appkit => some ["VK_KHR_surface", "VK_EXT_metal_surface"]
  | .drm => none
  | .web => none

/-- The kind of surface of a window system, if the loader makes it. -/
def surfaceKind? : Platform → Option SurfaceKind
  | .xlib => some .xlib
  | .xcb => some .xcb
  | .wayland => some .wayland
  | _ => none

/-! ## Beginning -/

/-- The place of the first zero byte of a text, if it has one. -/
def nulPosition? (s : String) : Option Nat :=
  s.toUTF8.toList.findIdx? (· = 0)

/-- The version of an application, and of Vulkan, that is numbered 1.0.0. -/
def version1 : Nat := 1 <<< 22

/-- Why the backend could not begin. -/
def failed (text : String) : Except BackendError Graphics := .error (.initialization text)

/-- Makes an instance for an application that presents on a window system. -/
def create (name : String) (platform : Platform) :
    Step Note Loader (Except BackendError Graphics) := do
  match nulPosition? name, extensions? platform with
  | some place, _ =>
    pure (failed ("Invalid application name: nul byte found in provided data at position: " ++
      decimalText place))
  | none, none =>
    pure (failed ("Failed to get required extensions: " ++ ResultCode.extensionNotPresent.text))
  | none, some extensions =>
    match ← Loader.createInstance (some ⟨name, version1, version1⟩) extensions with
    | .error result => pure (failed ("Failed to create instance: " ++ result.text))
    | .ok n =>
      Note.say .info "Vulkan instance created for surface presentation"
      pure (.ok ⟨← Step.get, n, true⟩)

/-- Uses an instance that belongs to someone else. -/
def borrow (onInstance : Nat) (loader : Loader) : Graphics := ⟨loader, onInstance, false⟩

/-! ## Surfaces -/

/-- A step of the loader. -/
def onLoader {α : Type} (s : Step Note Loader α) : Step Note Graphics α :=
  s.within Graphics.loader fun loader g => { g with loader := loader }

/-- Why a surface could not be made. -/
def refused (result : ResultCode) : Except BackendError Surface :=
  .error (.surfaceCreation ("Failed to create surface: " ++ result.text))

/-- Makes a surface of a native drawable. -/
def wrap : Drawable → Step Note Graphics (Except BackendError Surface)
  | .offscreen _ => pure (.error (.surfaceCreation "Vulkan needs a platform window handle"))
  | .platform platform window _ => do
    match surfaceKind? platform with
    | none => pure (refused .extensionNotPresent)
    | some kind =>
      let g ← Step.get
      match ← onLoader (Loader.createSurface kind g.onInstance window.toUInt32) with
      | .ok n => pure (.ok ⟨n⟩)
      | .error result => pure (refused result)

/-- Destroys a surface. -/
def release (surface : Surface) : Step Note Graphics Unit := do
  let g ← Step.get
  onLoader (Loader.destroySurface g.onInstance surface.number)

/-- Destroys the instance, if it belongs to the backend. -/
def close : Step Note Graphics Unit := do
  let g ← Step.get
  if g.ownsInstance then onLoader (Loader.destroyInstance g.onInstance)

end Graphics

instance : GraphicsBackend Graphics Surface where
  wrap := Graphics.wrap
  release := Graphics.release
  close := Graphics.close

end WindowSystem.Vulkan
