/-
# Window attributes, changes and queries as records

How a window manager's arguments and answers are written as plain data, and how changes are read:
by their label, or by the script operation that asks for them.
-/
import WindowSystem.Creation.Attributes
import WindowSystem.Datum.Reader
import WindowSystem.Event.Record
import WindowSystem.Manager.Change
import WindowSystem.Manager.Query

namespace WindowSystem

/-- Window attributes as a record; an absent one is null. -/
def WindowAttributes.toDatum (a : WindowAttributes) : Datum :=
  .record
    [("inner_size", .ofOption .ofSize a.innerSize),
     ("min_inner_size", .ofOption .ofSize a.minInnerSize),
     ("max_inner_size", .ofOption .ofSize a.maxInnerSize),
     ("position", .ofOption .ofPosition a.position),
     ("resize_increments", .ofOption .ofSize a.resizeIncrements),
     ("resizable", .ofOption .bool a.resizable),
     ("enabled_buttons", .ofOption (fun b => .nat b.bits.toNat) a.enabledButtons),
     ("title", .ofOption .text a.title),
     ("fullscreen", .ofOption .bool a.fullscreen),
     ("maximized", .ofOption .bool a.maximized),
     ("visible", .ofOption .bool a.visible),
     ("transparent", .ofOption .bool a.transparent),
     ("decorated", .ofOption .bool a.decorated),
     ("level", .ofOption .named a.level),
     ("theme", .ofOption .named a.theme),
     ("content_protected", .ofOption .bool a.contentProtected),
     ("active", .ofOption .bool a.active)]

/-! ## Changes -/

namespace WindowChange

/-- The label of a change. -/
def label : WindowChange → String
  | .title _ => "Title"
  | .visible _ => "Visible"
  | .resizable _ => "Resizable"
  | .minimized _ => "Minimized"
  | .maximized _ => "Maximized"
  | .fullscreen _ => "Fullscreen"
  | .decorated _ => "Decorated"
  | .level _ => "Level"
  | .theme _ => "Theme"
  | .innerSize _ => "InnerSize"
  | .minInnerSize _ => "MinInnerSize"
  | .maxInnerSize _ => "MaxInnerSize"
  | .outerPosition _ => "OuterPosition"
  | .resizeIncrements _ => "ResizeIncrements"
  | .contentProtected _ => "ContentProtected"
  | .enabledButtons _ => "EnabledButtons"
  | .cursorIcon _ => "CursorIcon"
  | .cursorGrab _ => "CursorGrab"
  | .cursorVisible _ => "CursorVisible"
  | .cursorPosition _ => "CursorPosition"
  | .imeAllowed _ => "ImeAllowed"
  | .focus => "Focus"
  | .requestRedraw => "RequestRedraw"

/-- The value that a change sets. -/
def value : WindowChange → Datum
  | .title text => .text text
  | .visible b | .resizable b | .minimized b | .maximized b | .fullscreen b | .decorated b
  | .contentProtected b | .cursorVisible b | .imeAllowed b => .bool b
  | .level stackLevel => .named stackLevel
  | .theme chosen => .ofOption .named chosen
  | .innerSize size => .ofSize size
  | .minInnerSize size | .maxInnerSize size | .resizeIncrements size => .ofOption .ofSize size
  | .outerPosition position => .ofPosition position
  | .enabledButtons buttons => .nat buttons.bits.toNat
  | .cursorIcon icon => .named icon
  | .cursorGrab mode => .named mode
  | .cursorPosition point => point.toPair
  | .focus | .requestRedraw => .null

/-- A change as a record of its label and its value. -/
def toDatum (c : WindowChange) : Datum := .record [("type", .text c.label), ("value", c.value)]

/-- The change with a label that sets a value. -/
def ofValue? (label : String) (value : Option Datum) : Option WindowChange :=
  let get {α : Type} (f : Datum → Option α) (change : α → WindowChange) : Option WindowChange :=
    (value.bind f).map change
  match label with
  | "Title" => get Datum.text? .title
  | "Visible" => get Datum.bool? .visible
  | "Resizable" => get Datum.bool? .resizable
  | "Minimized" => get Datum.bool? .minimized
  | "Maximized" => get Datum.bool? .maximized
  | "Fullscreen" => get Datum.bool? .fullscreen
  | "Decorated" => get Datum.bool? .decorated
  | "Level" => get Datum.named? .level
  | "Theme" => get (Datum.orNull? Datum.named?) .theme
  | "InnerSize" => get Datum.size? .innerSize
  | "MinInnerSize" => get (Datum.orNull? Datum.size?) .minInnerSize
  | "MaxInnerSize" => get (Datum.orNull? Datum.size?) .maxInnerSize
  | "OuterPosition" => get Datum.position? .outerPosition
  | "ResizeIncrements" => get (Datum.orNull? Datum.size?) .resizeIncrements
  | "ContentProtected" => get Datum.bool? .contentProtected
  | "EnabledButtons" => get Datum.uint32? fun bits => .enabledButtons (TitleButtons.ofBits bits)
  | "CursorIcon" => get Datum.named? .cursorIcon
  | "CursorGrab" => get Datum.named? .cursorGrab
  | "CursorVisible" => get Datum.bool? .cursorVisible
  | "CursorPosition" => get Datum.point? .cursorPosition
  | "ImeAllowed" => get Datum.bool? .imeAllowed
  | "Focus" => some .focus
  | "RequestRedraw" => some .requestRedraw
  | _ => none

/-- Reads a change from a record of its label and its value. -/
def ofDatum? : Datum → Option WindowChange
  | .record fields => do
    ofValue? (← Datum.required? Datum.text? fields "type") (Datum.lookup fields "value")
  | _ => none

/-- The label of the change that a script operation asks for. -/
def labelOfOperation? : String → Option String
  | "setTitle" => some "Title"
  | "setVisible" => some "Visible"
  | "setResizable" => some "Resizable"
  | "setMinimized" => some "Minimized"
  | "setMaximized" => some "Maximized"
  | "setFullscreen" => some "Fullscreen"
  | "setDecorated" => some "Decorated"
  | "setWindowLevel" => some "Level"
  | "setTheme" => some "Theme"
  | "setInnerSize" => some "InnerSize"
  | "setMinInnerSize" => some "MinInnerSize"
  | "setMaxInnerSize" => some "MaxInnerSize"
  | "setOuterPosition" => some "OuterPosition"
  | "setResizeIncrements" => some "ResizeIncrements"
  | "setContentProtected" => some "ContentProtected"
  | "setEnabledButtons" => some "EnabledButtons"
  | "setCursorIcon" => some "CursorIcon"
  | "setCursorGrab" => some "CursorGrab"
  | "setCursorVisible" => some "CursorVisible"
  | "setCursorPosition" => some "CursorPosition"
  | "setImeAllowed" => some "ImeAllowed"
  | "focusWindow" => some "Focus"
  | "requestRedraw" => some "RequestRedraw"
  | _ => none

/-- Every change has the operation under which it is read. -/
theorem labelOfOperation?_operation (c : WindowChange) :
    labelOfOperation? c.operation = some c.label := by
  cases c <;> rfl

end WindowChange

/-! ## Queries -/

namespace Query

/-- Every query. -/
def all : List Query :=
  [.scaleFactor, .innerPosition, .outerPosition, .innerSize, .outerSize, .title, .isVisible,
   .isResizable, .isMinimized, .isMaximized, .isFullscreen, .isDecorated]

/-- The query that a script operation makes. -/
def ofOperation? (operation : String) : Option Query :=
  all.find? fun q => q.operation == operation

/-- The answer to a query as plain data. -/
def answerDatum : (q : Query) → q.Answer → Datum
  | .scaleFactor, factor => .float factor
  | .innerPosition, position => .ofOption .ofPosition position
  | .outerPosition, position => .ofOption .ofPosition position
  | .innerSize, size => .ofSize size
  | .outerSize, size => .ofSize size
  | .title, text => .text text
  | .isVisible, b => .ofOption .bool b
  | .isResizable, b => .bool b
  | .isMinimized, b => .bool b
  | .isMaximized, b => .bool b
  | .isFullscreen, b => .bool b
  | .isDecorated, b => .bool b

/-- Every query is made under its operation. -/
theorem ofOperation?_operation (q : Query) : ofOperation? q.operation = some q := by
  cases q <;> decide

end Query

end WindowSystem
