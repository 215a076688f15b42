/-
# The journal as plain data

Every request in the journal as a list of its name and its arguments.
-/
import WindowSystem.Journal
import WindowSystem.Manager.Record

namespace WindowSystem

/-- The name under which a query is noted. -/
def Query.noteName : Query → String
  | .scaleFactor => "scale_factor"
  | .innerPosition => "inner_position"
  | .outerPosition => "outer_position"
  | .innerSize => "inner_size"
  | .outerSize => "outer_size"
  | .title => "title"
  | .isVisible => "is_visible"
  | .isResizable => "is_resizable"
  | .isMinimized => "is_minimized"
  | .isMaximized => "is_maximized"
  | .isFullscreen => "is_fullscreen"
  | .isDecorated => "is_decorated"

/-- A request of a scripted window manager. -/
def ManagerRequest.toDatum : ManagerRequest → Datum
  | .create attributes => .list [.text "create_window", attributes.toDatum]
  | .destroy id => .list [.text "destroy_window", id.toDatum]
  | .drawable id => .list [.text "create_surface_handle", id.toDatum]
  | .update id change => .list [.text "update", id.toDatum, change.toDatum]
  | .setDeviceFilter filter => .list [.text "set_device_event_filter", .named filter]
  | .query q id => .list [.text "query", .text q.noteName, id.toDatum]

/-- A request of a scripted graphics backend. -/
def GraphicsRequest.toDatum : GraphicsRequest → Datum
  | .wrap (.offscreen number) => .list [.text "wrap_surface", .nat number.toNat]
  | .wrap (.platform ..) => .list [.text "wrap_surface", .text "raw"]
  | .release serial => .list [.text "release_surface", .nat serial]

namespace Desktop

/-- A yes or no as a one or a zero. -/
def flag (b : Bool) : Datum := .nat (if b then 1 else 0)

/-- The hints of a new window as a record. -/
def CreationHints.toDatum (h : CreationHints) : Datum :=
  .record
    [("width", .nat h.width.toNat), ("height", .nat h.height.toNat), ("api", .nat 0),
     ("resizable", flag h.resizable), ("visible", flag h.visible),
     ("decorated", flag h.decorated), ("maximized", flag h.maximized),
     ("transparent", flag h.transparent), ("floating", flag h.floating),
     ("focus_on_show", flag h.focusOnShow)]

/-- The name of a request to the display. -/
def WindowRequest.name : WindowRequest → String
  | .create .. => "create"
  | .destroy => "destroy"
  | .title _ => "title"
  | .position .. => "pos"
  | .size .. => "size"
  | .limits .. => "limits"
  | .iconify => "iconify"
  | .maximize => "maximize"
  | .restore => "restore"
  | .showWindow => "show"
  | .hide => "hide"
  | .focus => "focus"
  | .resizable _ => "resizable"
  | .decorated _ => "decorated"
  | .floating _ => "floating"
  | .cursor _ => "cursor"
  | .cursorMode _ => "cursor_mode"
  | .cursorPosition .. => "cursor_pos"

/-- The arguments of a request to the display, after the window. -/
def WindowRequest.arguments : WindowRequest → List Datum
  | .create hints text => [hints.toDatum, .text text]
  | .title text => [.text text]
  | .position x y => [.int x.toInt, .int y.toInt]
  | .size width height => [.int width.toInt, .int height.toInt]
  | .limits a b c d => [.int a.toInt, .int b.toInt, .int c.toInt, .int d.toInt]
  | .resizable b => [flag b]
  | .decorated b => [flag b]
  | .floating b => [flag b]
  | .cursor shape => [.named shape]
  | .cursorMode mode => [.named mode]
  | .cursorPosition x y => [.float x, .float y]
  | _ => []

/-- A request to the display. -/
def Request.toDatum (r : Request) : Datum :=
  .list (.text r.request.name :: .nat r.window :: r.request.arguments)

end Desktop

/-- A call to the Vulkan loader. Without an application, the versions are zero. -/
def Vulkan.Call.toDatum : Vulkan.Call → Datum
  | .createInstance application extensions _ =>
    .list <|
      [.text "vkCreateInstance",
       .nat ((application.map Application.applicationVersion).getD 0),
       .nat ((application.map Application.apiVersion).getD 0),
       .list (extensions.map .text)] ++
      (application.map fun a => Datum.text a.name).toList
  | .destroyInstance number => .list [.text "vkDestroyInstance", .nat number]
  | .createSurface kind on window _ =>
    let name := match kind with
      | .xlib => "vkCreateXlibSurfaceKHR"
      | .xcb => "vkCreateXcbSurfaceKHR"
      | .wayland => "vkCreateWaylandSurfaceKHR"
    .list [.text name, .nat on, .nat window.toNat]
  | .destroySurface on number => .list [.text "vkDestroySurfaceKHR", .nat on, .nat number]

namespace Note

/-- The log record of a note, if it is one. -/
def log? : Note → Option Datum
  | .log level text => some (.list [.named level, .text text])
  | _ => none

/-- The request of a note, if it is one. -/
def request? : Note → Option Datum
  | .log .. => none
  | .manager request => some request.toDatum
  | .graphics request => some request.toDatum
  | .display request => some request.toDatum
  | .vulkan call => some call.toDatum

end Note

end WindowSystem
