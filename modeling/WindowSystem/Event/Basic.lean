/-
# Events

What happens in a window system. An event concerns the whole application, one window, or one
device; a window event names its window by an identifier when a window manager reports it, and
by a handle, if there still is one, when a script receives it.
-/
import WindowSystem.Appearance
import WindowSystem.Event.Input
import WindowSystem.Geometry
import WindowSystem.Identity

namespace WindowSystem

/-- Notifications of the whole application. `newEvents` opens a batch of events,
`mainEventsCleared` ends its input part and `redrawEventsCleared` its redraw part. -/
inductive LifecycleEvent where
  | appResumed | appSuspended | newEvents | mainEventsCleared | redrawEventsCleared
  deriving DecidableEq, Repr

instance : Vocabulary LifecycleEvent where
  all := [.appResumed, .appSuspended, .newEvents, .mainEventsCleared, .redrawEventsCleared]
  name
    | .appResumed => "app-resumed"
    | .appSuspended => "app-suspended"
    | .newEvents => "new-events"
    | .mainEventsCleared => "main-events-cleared"
    | .redrawEventsCleared => "redraw-events-cleared"
  label
    | .appResumed => "AppResumed"
    | .appSuspended => "AppSuspended"
    | .newEvents => "NewEvents"
    | .mainEventsCleared => "MainEventsCleared"
    | .redrawEventsCleared => "RedrawEventsCleared"

/-- The path of a dropped or hovered file: text, or bytes that are no text. -/
inductive FilePath where
  | text (path : String)
  | bytes (bytes : List UInt8)
  deriving DecidableEq, Repr

/-- What can happen to a window. -/
inductive WindowEvent where
  | closeRequested
  | redrawRequested
  | resized (innerSize : Size)
  | moved (position : Position)
  | focused (isFocused : Bool)
  | occluded (isOccluded : Bool)
  | scaleFactorChanged (scaleFactor : Double)
  | themeChanged (theme : Theme)
  | cursorEntered (device : DeviceId)
  | cursorLeft (device : DeviceId)
  | cursorMoved (device : DeviceId) (position : Point)
  | mouseButton (device : DeviceId) (button : MouseButton) (state : ButtonState)
  | mouseWheel (device : DeviceId) (delta : ScrollDelta) (phase : TouchPhase)
  | keyInput (device : DeviceId) (scanCode : UInt32) (keyCode : Option KeyCode)
      (state : ButtonState) (isSynthetic : Bool)
  | charInput (codePoint : UInt32)
  | modifiersChanged (modifiers : Modifiers)
  | imeEnabled
  | imePreedit (string : String) (cursorRange : Option (UInt64 × UInt64))
  | imeCommit (string : String)
  | imeDisabled
  | droppedFile (path : FilePath)
  | hoveredFile (path : FilePath)
  | hoveredFileCancelled
  | touchInput (device : DeviceId) (location : Point) (phase : TouchPhase)
      (force : Option TouchForce) (finger : UInt64)
  | touchpadPressure (device : DeviceId) (pressure : Single) (clickLevel : Int64)
  | axisInput (device : DeviceId) (axis : UInt32) (value : Double)
  deriving DecidableEq, Repr

/-- What can happen to a device, whatever window has the focus. -/
inductive DeviceEvent where
  | added
  | removed
  | key (scanCode : UInt32) (keyCode : Option KeyCode) (state : ButtonState)
  | button (buttonId : UInt32) (state : ButtonState)
  | char (codePoint : UInt32)
  | axis (axis : UInt32) (value : Double)
  | scroll (delta : ScrollDelta)
  | mouseMotion (delta : Point)
  deriving DecidableEq, Repr

/-- An event whose window is referred to by a `W`. -/
inductive Event (W : Type) where
  | lifecycle (event : LifecycleEvent)
  | window (window : W) (event : WindowEvent)
  | device (device : DeviceId) (event : DeviceEvent)
  deriving DecidableEq, Repr

/-- An event as a window manager reports it. -/
abbrev RawEvent := Event WindowId

/-! ## Kinds -/

/-- The kind of a window event, as scripts name it. -/
def WindowEvent.kind : WindowEvent → String
  | .closeRequested => "close-requested"
  | .redrawRequested => "redraw-requested"
  | .resized .. => "window-resized"
  | .moved .. => "window-moved"
  | .focused .. => "window-focused"
  | .occluded .. => "window-occluded"
  | .scaleFactorChanged .. => "scale-factor-changed"
  | .themeChanged .. => "window-theme-changed"
  | .cursorEntered .. => "cursor-entered"
  | .cursorLeft .. => "cursor-left"
  | .cursorMoved .. => "cursor-moved"
  | .mouseButton .. => "mouse-button"
  | .mouseWheel .. => "mouse-wheel"
  | .keyInput .. => "key-input"
  | .charInput .. => "char-input"
  | .modifiersChanged .. => "modifiers-changed"
  | .imeEnabled => "ime-enabled"
  | .imePreedit .. => "ime-preedit"
  | .imeCommit .. => "ime-commit"
  | .imeDisabled => "ime-disabled"
  | .droppedFile .. => "dropped-file"
  | .hoveredFile .. => "hovered-file"
  | .hoveredFileCancelled => "hovered-file-cancelled"
  | .touchInput .. => "touch-input"
  | .touchpadPressure .. => "touchpad-pressure"
  | .axisInput .. => "axis-input"

/-- The kind of a device event. -/
def DeviceEvent.kind : DeviceEvent → String
  | .added => "device-added"
  | .removed => "device-removed"
  | .key .. => "device-key"
  | .button .. => "device-button"
  | .char .. => "device-char"
  | .axis .. => "device-axis"
  | .scroll .. => "device-scroll"
  | .mouseMotion .. => "mouse-motion"

namespace Event

variable {V W X : Type}

/-- The kind of an event. -/
def kind : Event W → String
  | .lifecycle e => Vocabulary.name e
  | .window _ e => e.kind
  | .device _ e => e.kind

/-- The window an event concerns, if it concerns one. -/
def window? : Event W → Option W
  | .window w _ => some w
  | _ => none

/-- Whether an event concerns a device. -/
def isDevice : Event W → Bool
  | .device .. => true
  | _ => false

/-- Refers to the window in another way and leaves all else alone. -/
def mapWindow (f : V → W) : Event V → Event W
  | .lifecycle e => .lifecycle e
  | .window w e => .window (f w) e
  | .device d e => .device d e

/-- Referring to the window as before changes nothing. -/
@[simp]
theorem mapWindow_id (e : Event W) : e.mapWindow id = e := by
  cases e <;> rfl

/-- Two changes of reference are one. -/
theorem mapWindow_mapWindow (f : V → W) (g : W → X) (e : Event V) :
    (e.mapWindow f).mapWindow g = e.mapWindow (g ∘ f) := by
  cases e <;> rfl

/-- The kind does not depend on the reference. -/
@[simp]
theorem kind_mapWindow (f : V → W) (e : Event V) : (e.mapWindow f).kind = e.kind := by
  cases e <;> rfl

/-- The window of an event whose reference was changed. -/
@[simp]
theorem window?_mapWindow (f : V → W) (e : Event V) :
    (e.mapWindow f).window? = e.window?.map f := by
  cases e <;> rfl

end Event

end WindowSystem
