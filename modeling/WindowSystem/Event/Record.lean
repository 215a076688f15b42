/-
# Events as records

The flat record in which an event is written: the reference to its window or device, its tag
under `type`, and its values, in this order. Tags are made from the labels of events and are not
read from the table of their kinds. A file path that is no text cannot be written.
-/
import WindowSystem.Datum.Basic
import WindowSystem.Event.Basic

namespace WindowSystem

/-! ## Tags -/

/-- A label of words that each begin with a capital, as words in small letters with hyphens
between them. -/
def kebabCase (label : String) : String :=
  match label.toList with
  | [] => ""
  | first :: rest =>
    String.ofList (first.toLower :: rest.flatMap fun c =>
      if c.isUpper then ['-', c.toLower] else [c.toLower])

/-- The tag of an event of the application. -/
def LifecycleEvent.tag (e : LifecycleEvent) : String := kebabCase (Vocabulary.label e)

/-- The label of a window event. -/
def WindowEvent.label : WindowEvent → String
  | .closeRequested => "CloseRequested"
  | .redrawRequested => "RedrawRequested"
  | .resized .. => "WindowResized"
  | .moved .. => "WindowMoved"
  | .focused .. => "WindowFocused"
  | .occluded .. => "WindowOccluded"
  | .scaleFactorChanged .. => "ScaleFactorChanged"
  | .themeChanged .. => "WindowThemeChanged"
  | .cursorEntered .. => "CursorEntered"
  | .cursorLeft .. => "CursorLeft"
  | .cursorMoved .. => "CursorMoved"
  | .mouseButton .. => "MouseButton"
  | .mouseWheel .. => "MouseWheel"
  | .keyInput .. => "KeyInput"
  | .charInput .. => "CharInput"
  | .modifiersChanged .. => "ModifiersChanged"
  | .imeEnabled => "ImeEnabled"
  | .imePreedit .. => "ImePreedit"
  | .imeCommit .. => "ImeCommit"
  | .imeDisabled => "ImeDisabled"
  | .droppedFile .. => "DroppedFile"
  | .hoveredFile .. => "HoveredFile"
  | .hoveredFileCancelled => "HoveredFileCancelled"
  | .touchInput .. => "TouchInput"
  | .touchpadPressure .. => "TouchpadPressure"
  | .axisInput .. => "AxisInput"

/-- The tag of a window event. -/
def WindowEvent.tag (e : WindowEvent) : String := kebabCase e.label

/-- The tag of a device event. These are given one by one, since the labels of device events do not
say that it is a device they concern. -/
def DeviceEvent.tag : DeviceEvent → String
  | .added => "device-added"
  | .removed => "device-removed"
  | .key .. => "device-key"
  | .button .. => "device-button"
  | .char .. => "device-char"
  | .axis .. => "device-axis"
  | .scroll .. => "device-scroll"
  | .mouseMotion .. => "mouse-motion"

/-- The tag of an event. -/
def Event.tag {W : Type} : Event W → String
  | .lifecycle e => e.tag
  | .window _ e => e.tag
  | .device _ e => e.tag

/-! ## Values -/

/-- The number of a device. -/
def DeviceId.toDatum (d : DeviceId) : Datum := .nat d.number.toNat

/-- A button by name, or by index beyond the usual three. -/
def MouseButton.toDatum : MouseButton → Datum
  | .left => .text "left"
  | .right => .text "right"
  | .middle => .text "middle"
  | .other index => .nat index.toNat

/-- A scroll amount with its unit. -/
def ScrollDelta.toDatum : ScrollDelta → Datum
  | .lines x y =>
    .record [("type", .text "line-delta"), ("x", .float x.toDouble), ("y", .float y.toDouble)]
  | .pixels x y => .record [("type", .text "pixel-delta"), ("x", .float x), ("y", .float y)]

/-- A pressure with its scale. -/
def TouchForce.toDatum : TouchForce → Datum
  | .calibrated value maxValue angle =>
    .record [("type", .text "calibrated"), ("value", .float value), ("maxValue", .float maxValue),
      ("altitudeAngle", .ofOption .float angle)]
  | .normalized value => .record [("type", .text "normalized"), ("value", .float value)]

/-- A pair of coordinates. -/
def Point.toPair (p : Point) : Datum := .list [.float p.x, .float p.y]

/-- Why an event cannot be written. -/
inductive EventWriteError where
  | pathNotText
  deriving DecidableEq, Repr

/-- The message of an event that cannot be written. -/
def EventWriteError.message : EventWriteError → String
  | .pathNotText => "path contains invalid UTF-8 characters"

/-- A path, if it is text. -/
def FilePath.toDatum : FilePath → Except EventWriteError Datum
  | .text path => .ok (.text path)
  | .bytes _ => .error .pathNotText

/-! ## Events -/

/-- The values of a window event. -/
def WindowEvent.toFields : WindowEvent → Except EventWriteError (List (String × Datum))
  | .closeRequested | .redrawRequested | .imeEnabled | .imeDisabled | .hoveredFileCancelled =>
    .ok []
  | .resized size => .ok [("innerSize", .list [.nat size.width.toNat, .nat size.height.toNat])]
  | .moved position => .ok [("position", .list [.int position.x.toInt, .int position.y.toInt])]
  | .focused isFocused => .ok [("isFocused", .bool isFocused)]
  | .occluded isOccluded => .ok [("isOccluded", .bool isOccluded)]
  | .scaleFactorChanged factor => .ok [("scaleFactor", .float factor)]
  | .themeChanged theme => .ok [("theme", .named theme)]
  | .cursorEntered device => .ok [("deviceId", device.toDatum)]
  | .cursorLeft device => .ok [("deviceId", device.toDatum)]
  | .cursorMoved device position =>
    .ok [("deviceId", device.toDatum), ("position", position.toPair)]
  | .mouseButton device button state =>
    .ok [("deviceId", device.toDatum), ("button", button.toDatum), ("state", .named state)]
  | .mouseWheel device delta phase =>
    .ok [("deviceId", device.toDatum), ("delta", delta.toDatum), ("touchPhase", .named phase)]
  | .keyInput device scanCode keyCode state isSynthetic =>
    .ok [("deviceId", device.toDatum), ("scanCode", .nat scanCode.toNat),
      ("keyCode", .ofOption .named keyCode), ("state", .named state),
      ("isSynthetic", .bool isSynthetic)]
  | .charInput codePoint => .ok [("codePoint", .nat codePoint.toNat)]
  | .modifiersChanged modifiers => .ok [("modifiers", .nat modifiers.bits.toNat)]
  | .imePreedit string range =>
    .ok [("string", .text string),
      ("cursorRange", .ofOption (fun r => .list [.nat r.1.toNat, .nat r.2.toNat]) range)]
  | .imeCommit string => .ok [("string", .text string)]
  | .droppedFile path => path.toDatum.map fun d => [("path", d)]
  | .hoveredFile path => path.toDatum.map fun d => [("path", d)]
  | .touchInput device location phase force finger =>
    .ok [("deviceId", device.toDatum), ("location", location.toPair),
      ("touchPhase", .named phase), ("touchForce", .ofOption TouchForce.toDatum force),
      ("fingerId", .nat finger.toNat)]
  | .touchpadPressure device pressure clickLevel =>
    .ok [("deviceId", device.toDatum), ("pressure", .float pressure.toDouble),
      ("clickLevel", .int clickLevel.toInt)]
  | .axisInput device axis value =>
    .ok [("deviceId", device.toDatum), ("axisId", .nat axis.toNat), ("value", .float value)]

/-- The values of a device event. -/
def DeviceEvent.toFields : DeviceEvent → List (String × Datum)
  | .added | .removed => []
  | .key scanCode keyCode state =>
    [("scanCode", .nat scanCode.toNat), ("keyCode", .ofOption .named keyCode),
      ("state", .named state)]
  | .button buttonId state => [("buttonId", .nat buttonId.toNat), ("state", .named state)]
  | .char codePoint => [("codePoint", .nat codePoint.toNat)]
  | .axis axisId value => [("axisId", .nat axisId.toNat), ("value", .float value)]
  | .scroll delta => [("delta", delta.toDatum)]
  | .mouseMotion delta => [("delta", .record [("x", .float delta.x), ("y", .float delta.y)])]

namespace Event

variable {W : Type}

/-- An event as a flat record; `reference` writes the window. -/
def toFields (reference : W → Datum) (e : Event W) :
    Except EventWriteError (List (String × Datum)) :=
  let tag := ("type", Datum.text e.tag)
  match e with
  | .lifecycle _ => .ok [tag]
  | .window w event => event.toFields.map fun values => ("window", reference w) :: tag :: values
  | .device d event => .ok (("deviceId", d.toDatum) :: tag :: event.toFields)

end Event

/-! ## The JSON view -/

namespace Datum

mutual

/-- A value as JSON can write it: numbers without digits become null. -/
def jsonView : Datum → Datum
  | .float x => if x.isFinite then .float x else .null
  | .list items => .list (jsonViewItems items)
  | .record fields => .record (jsonViewFields fields)
  | d => d

def jsonViewItems : List Datum → List Datum
  | [] => []
  | d :: rest => d.jsonView :: jsonViewItems rest

def jsonViewFields : List (String × Datum) → List (String × Datum)
  | [] => []
  | (key, d) :: rest => (key, d.jsonView) :: jsonViewFields rest

end

end Datum

/-- The JSON form of an event. -/
def Event.toJson {W : Type} (reference : W → Datum) (e : Event W) :
    Except EventWriteError Datum :=
  (e.toFields reference).map fun fields => (Datum.record fields).jsonView

/-- The identifier of a window as a value. -/
def WindowId.toDatum (id : WindowId) : Datum := .nat id.number.toNat

end WindowSystem
