/-
# Events as they are described

Reading events from records that name the kind of event and its values by their labels, as a host
does that plays events to the bridge. A record with `lifecycle` is an event of the application,
one with `window` an event of a window, and one with `device` an event of a device.
-/
import WindowSystem.Datum.Reader
import WindowSystem.Event.Basic

namespace WindowSystem

open Datum (required? orNull? number? single? pair? point? labelled? device?)

/-- A mouse button by its label, or by its index. -/
def MouseButton.ofDatum? : Datum → Option MouseButton
  | .text "Left" => some .left
  | .text "Right" => some .right
  | .text "Middle" => some .middle
  | d => d.uint16?.map .other

/-- A scroll amount under the label of its unit. -/
def ScrollDelta.ofDatum? : Datum → Option ScrollDelta
  | .record [("LineDelta", d)] => (pair? single? d).map fun (x, y) => .lines x y
  | .record [("PixelDelta", d)] => (pair? number? d).map fun (x, y) => .pixels x y
  | _ => none

/-- A pressure under the label of its scale. -/
def TouchForce.ofDatum? : Datum → Option TouchForce
  | .record [("Normalized", d)] => (number? d).map .normalized
  | .record [("Calibrated", .record fields)] => do
    pure (.calibrated (← required? number? fields "value")
      (← required? number? fields "max_value")
      (← required? (orNull? number?) fields "altitude_angle"))
  | _ => none

/-- A path as text, or as the hexadecimal digits of its bytes. -/
def FilePath.ofDatum? : Datum → Option FilePath
  | .text path => some (.text path)
  | .record [("bytes", .text hex)] => do
    let bytes ← Datum.hexBytes? hex
    match String.fromUTF8? ⟨bytes.toArray⟩ with
    | some path => pure (.text path)
    | none => pure (.bytes bytes)
  | _ => none

/-- A window event from the fields of its description. -/
def WindowEvent.ofFields? (fields : List (String × Datum)) : Option WindowEvent := do
  let get {α : Type} (f : Datum → Option α) (key : String) : Option α := required? f fields key
  let device := get device? "device_id"
  match ← get Datum.text? "type" with
  | "CloseRequested" => pure .closeRequested
  | "RedrawRequested" => pure .redrawRequested
  | "WindowResized" =>
    let (width, height) ← get (pair? Datum.uint32?) "inner_size"
    pure (.resized ⟨width, height⟩)
  | "WindowMoved" =>
    let (x, y) ← get (pair? Datum.int32?) "position"
    pure (.moved ⟨x, y⟩)
  | "WindowFocused" => pure (.focused (← get Datum.bool? "is_focused"))
  | "WindowOccluded" => pure (.occluded (← get Datum.bool? "is_occluded"))
  | "ScaleFactorChanged" => pure (.scaleFactorChanged (← get number? "scale_factor"))
  | "WindowThemeChanged" =>
    pure (.themeChanged (← get (fun d => d.text?.bind Vocabulary.ofName?) "theme"))
  | "CursorEntered" => pure (.cursorEntered (← device))
  | "CursorLeft" => pure (.cursorLeft (← device))
  | "CursorMoved" => pure (.cursorMoved (← device) (← get point? "position"))
  | "MouseButton" =>
    pure (.mouseButton (← device) (← get MouseButton.ofDatum? "button") (← get labelled? "state"))
  | "MouseWheel" =>
    pure (.mouseWheel (← device) (← get ScrollDelta.ofDatum? "delta")
      (← get labelled? "touch_phase"))
  | "KeyInput" =>
    pure (.keyInput (← device) (← get Datum.uint32? "scan_code")
      (← get (orNull? labelled?) "key_code") (← get labelled? "state")
      (← get Datum.bool? "is_synthetic"))
  | "CharInput" => pure (.charInput (← get Datum.uint32? "code_point"))
  | "ModifiersChanged" =>
    pure (.modifiersChanged (Modifiers.ofBits (← get Datum.uint32? "modifiers")))
  | "ImeEnabled" => pure .imeEnabled
  | "ImePreedit" =>
    pure (.imePreedit (← get Datum.text? "string")
      (← get (orNull? (pair? Datum.uint64?)) "cursor_range"))
  | "ImeCommit" => pure (.imeCommit (← get Datum.text? "string"))
  | "ImeDisabled" => pure .imeDisabled
  | "DroppedFile" => pure (.droppedFile (← get FilePath.ofDatum? "path"))
  | "HoveredFile" => pure (.hoveredFile (← get FilePath.ofDatum? "path"))
  | "HoveredFileCancelled" => pure .hoveredFileCancelled
  | "TouchInput" =>
    pure (.touchInput (← device) (← get point? "location") (← get labelled? "touch_phase")
      (← get (orNull? TouchForce.ofDatum?) "touch_force") (← get Datum.uint64? "finger_id"))
  | "TouchpadPressure" =>
    pure (.touchpadPressure (← device) (← get single? "pressure")
      (← get Datum.int64? "click_level"))
  | "AxisInput" =>
    pure (.axisInput (← device) (← get Datum.uint32? "axis_id") (← get number? "value"))
  | _ => none

/-- A device event from the fields of its description. -/
def DeviceEvent.ofFields? (fields : List (String × Datum)) : Option DeviceEvent := do
  let get {α : Type} (f : Datum → Option α) (key : String) : Option α := required? f fields key
  match ← get Datum.text? "type" with
  | "Added" => pure .added
  | "Removed" => pure .removed
  | "Key" =>
    pure (.key (← get Datum.uint32? "scan_code") (← get (orNull? labelled?) "key_code")
      (← get labelled? "state"))
  | "Button" => pure (.button (← get Datum.uint32? "button_id") (← get labelled? "state"))
  | "Char" => pure (.char (← get Datum.uint32? "code_point"))
  | "Axis" => pure (.axis (← get Datum.uint32? "axis_id") (← get number? "value"))
  | "Scroll" => pure (.scroll (← get ScrollDelta.ofDatum? "delta"))
  | "MouseMotion" => pure (.mouseMotion (← get point? "delta"))
  | _ => none

/-- An event from its description, whose window is read by `window?`. -/
def Event.ofDescription? (window? : Datum → Option WindowId) : Datum → Option RawEvent
  | .record fields =>
    match Datum.lookup fields "lifecycle" with
    | some d => (labelled? d).map .lifecycle
    | none => do
      let inner ← match Datum.lookup fields "event" with
        | some (.record inner) => some inner
        | _ => none
      match Datum.lookup fields "window" with
      | some w => pure (.window (← window? w) (← WindowEvent.ofFields? inner))
      | none => pure (.device (← required? device? fields "device") (← DeviceEvent.ofFields? inner))
  | _ => none

end WindowSystem
