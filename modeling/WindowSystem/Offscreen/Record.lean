/-
# Offscreen windows as records

The state of an offscreen window as plain data.
-/
import WindowSystem.Datum.Reader
import WindowSystem.Event.Record
import WindowSystem.Offscreen.Window

namespace WindowSystem.Offscreen

/-- The state of a window as a record. -/
def Window.toDatum (w : Window) : Datum :=
  .record
    [("title", .text w.title), ("inner_size", .ofSize w.innerSize),
     ("min_inner_size", .ofOption .ofSize w.minInnerSize),
     ("max_inner_size", .ofOption .ofSize w.maxInnerSize),
     ("resize_increments", .ofOption .ofSize w.resizeIncrements),
     ("position", .ofPosition w.position), ("scale_factor", .float w.scaleFactor),
     ("visible", .bool w.visible), ("resizable", .bool w.resizable),
     ("minimized", .bool w.minimized), ("maximized", .bool w.maximized),
     ("fullscreen", .bool w.fullscreen), ("decorated", .bool w.decorated),
     ("transparent", .bool w.transparent), ("content_protected", .bool w.contentProtected),
     ("ime_allowed", .bool w.imeAllowed), ("level", .named w.level),
     ("theme", .ofOption .named w.theme), ("enabled_buttons", .nat w.enabledButtons.bits.toNat),
     ("cursor_icon", .named w.cursorIcon), ("cursor_grab", .named w.cursorGrab),
     ("cursor_visible", .bool w.cursorVisible), ("cursor_position", w.cursorPosition.toPair),
     ("drawable_issued", .bool w.drawableIssued)]

end WindowSystem.Offscreen
