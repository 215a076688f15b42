/-
# Requests to a display

What a desktop window manager asks of the display: to create, change and destroy windows, which
are known by the order of their creation.
-/
import WindowSystem.Geometry
import WindowSystem.Vocabulary

namespace WindowSystem.Desktop

/-- What the display is told about a new window. -/
structure CreationHints where
  width : UInt32
  height : UInt32
  resizable : Bool
  visible : Bool
  decorated : Bool
  maximized : Bool
  transparent : Bool
  floating : Bool
  focusOnShow : Bool
  deriving DecidableEq, Repr

/-- The cursor shapes that a display draws. -/
inductive CursorShape where
  | arrow | beam | crosshair | hand | horizontalResize | verticalResize
  deriving DecidableEq, Repr

instance : Vocabulary CursorShape where
  all := [.arrow, .beam, .crosshair, .hand, .horizontalResize, .verticalResize]
  name
    | .arrow => "arrow"
    | .beam => "ibeam"
    | .crosshair => "crosshair"
    | .hand => "hand"
    | .horizontalResize => "hresize"
    | .verticalResize => "vresize"
  label
    | .arrow => "Arrow"
    | .beam => "IBeam"
    | .crosshair => "Crosshair"
    | .hand => "Hand"
    | .horizontalResize => "HResize"
    | .verticalResize => "VResize"

/-- Whether the cursor is shown over a window, hidden there, or held by it. -/
inductive CursorMode where
  | normal | hidden | disabled
  deriving DecidableEq, Repr

instance : Vocabulary CursorMode where
  all := [.normal, .hidden, .disabled]
  name
    | .normal => "normal"
    | .hidden => "hidden"
    | .disabled => "disabled"
  label
    | .normal => "Normal"
    | .hidden => "Hidden"
    | .disabled => "Disabled"

/-- What can be asked about one window of the display. -/
inductive WindowRequest where
  | create (hints : CreationHints) (title : String)
  | destroy
  | title (text : String)
  | position (x y : Int32)
  | size (width height : Int32)
  | limits (minWidth minHeight maxWidth maxHeight : Int32)
  | iconify
  | maximize
  | restore
  | showWindow
  | hide
  | focus
  | resizable (isResizable : Bool)
  | decorated (isDecorated : Bool)
  | floating (isFloating : Bool)
  | cursor (shape : CursorShape)
  | cursorMode (mode : CursorMode)
  | cursorPosition (x y : Double)
  deriving DecidableEq, Repr

/-- A request about the window with a given number. -/
structure Request where
  window : Nat
  request : WindowRequest
  deriving DecidableEq, Repr

end WindowSystem.Desktop
