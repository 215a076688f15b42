/-
# Drawables

What a window manager hands to a graphics backend so that it can present on a window.
-/
import WindowSystem.Vocabulary

namespace WindowSystem

/-- The window systems whose handles a drawable can hold. -/
inductive Platform where
  | xlib | xcb | wayland | windows | android | appkit | drm | web
  deriving DecidableEq, Repr

instance : Vocabulary Platform where
  all := [.xlib, .xcb, .wayland, .windows, .android, .appkit, .drm, .web]
  name
    | .xlib => "xlib"
    | .xcb => "xcb"
    | .wayland => "wayland"
    | .windows => "windows"
    | .android => "android"
    | .appkit => "appkit"
    | .drm => "drm"
    | .web => "web"
  label
    | .xlib => "Xlib"
    | .xcb => "Xcb"
    | .wayland => "Wayland"
    | .windows => "Windows"
    | .android => "Android"
    | .appkit => "AppKit"
    | .drm => "Drm"
    | .web => "Web"

/-- A native drawable: the handles of a window and of its display connection, or the number of
an area in memory. -/
inductive Drawable where
  | platform (kind : Platform) (window display : UInt64)
  | offscreen (number : UInt64)
  deriving DecidableEq, Repr

end WindowSystem
