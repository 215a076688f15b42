/-
# The desktop window manager

The window manager of a display. It looks at the display from time to time and turns what was
reported about its windows into a frame of events: one that opens it, the reports in the order of
time, one that ends the input, the redraws that were asked for, and one that closes it.
-/
import WindowSystem.Desktop.Display
import WindowSystem.Manager.Basic
import WindowSystem.Manager.SlotTable
import WindowSystem.Settings.Basic

namespace WindowSystem.Desktop

/-- What the manager keeps of a window, beside what the display does. -/
structure Record where
  /-- The window's number on the display. -/
  number : Nat
  title : String
  minInnerSize : Option Size
  maxInnerSize : Option Size
  cursorGrab : CursorGrab := .none
  cursorVisible : Bool := true

/-- The state of the desktop window manager. -/
structure Manager where
  display : Display
  windows : SlotTable Record := {}
  /-- Events of frames that nobody has taken, oldest first. -/
  pending : List RawEvent := []
  /-- The windows that asked to be redrawn, in the order of asking. -/
  redrawRequests : List WindowId := []
  /-- The modifiers last reported. -/
  modifiers : Modifiers := Modifiers.empty
  /-- How long to wait after a look that found nothing, in milliseconds. -/
  pollInterval : Nat
  /-- The time of those who wait, in milliseconds. -/
  clock : Nat := 0

namespace Manager

/-! ## Beginning and end -/

/-- Opens a display. -/
def start (pollInterval : Nat) : Step Note Display (Except BackendError Manager) := do
  let display ← Step.get
  if display.refusesOpening then
    pure (.error (.initialization "GLFW initialization failed: Internal Initialization Error"))
  else
    Note.say .info "GLFW window manager started"
    pure (.ok { display, pollInterval })

/-- The interval between looks of a manager without settings, in milliseconds. -/
def defaultPollInterval : Nat := 4

/-- A step of the display. -/
def onDisplay {α : Type} (s : Step Note Display α) : Step Note Manager α :=
  s.within Manager.display fun display m => { m with display := display }

/-- Destroys all windows, in the order of their slots. -/
def close : Step Note Manager Unit := do
  let records := (← Step.get).windows.toList
  Step.forEach (fun entry => onDisplay (Display.destroy entry.2.number)) records

/-! ## Windows -/

/-- The record of a window. -/
def record? (m : Manager) (id : WindowId) : Option Record := m.windows.get? id

/-- Replaces the record of a window. -/
def putRecord (id : WindowId) (r : Record) : Step Note Manager Unit :=
  Step.modify fun m => { m with windows := m.windows.set id r }

/-- Passes the size limits of a window on. -/
def sendLimits (r : Record) : Step Note Manager Unit :=
  onDisplay (Display.setLimits r.number r.minInnerSize r.maxInnerSize)

/-- What the display is told about a window that attributes describe. -/
def hints (a : WindowAttributes) : CreationHints :=
  let size := a.innerSize.getD ⟨800, 600⟩
  { width := size.width
    height := size.height
    resizable := a.resizable.getD true
    visible := a.visible.getD true
    decorated := a.decorated.getD true
    maximized := a.maximized.getD false
    transparent := a.transparent.getD false
    floating := a.level = some .alwaysOnTop
    focusOnShow := a.active.getD true }

/-- Warns of what the display cannot do for windows that fill the screen or stay below. -/
def warnUnsupported (fullscreen : Bool) (level : Option StackLevel) : Step Note Manager Unit := do
  if fullscreen then Note.say .warn "Fullscreen mode not implemented for GLFW backend"
  if level = some .alwaysOnBottom then
    Note.say .warn "always-on-bottom windows not supported by GLFW backend"

/-- Creates a window on the display, then places it and limits its size. -/
def create (a : WindowAttributes) : Step Note Manager (Except BackendError WindowId) := do
  let title := a.title.getD "Window"
  match ← onDisplay (Display.create (hints a) title) with
  | none => pure (.error (.windowCreation ("GLFW refused window '" ++ title ++ "'")))
  | some number =>
    let r : Record :=
      { number, title, minInnerSize := a.minInnerSize, maxInnerSize := a.maxInnerSize }
    match a.position with
    | some p => onDisplay (Display.setPosition number p.x p.y)
    | none => pure ()
    if r.minInnerSize.isSome || r.maxInnerSize.isSome then sendLimits r
    warnUnsupported (a.fullscreen = some true) a.level
    let (id, windows) := (← Step.get).windows.insert r
    Step.modify fun m => { m with windows := windows }
    Note.say .debug ("GLFW window " ++ id.text ++ " created")
    pure (.ok id)

/-- Destroys a window on the display and forgets that it asked to be redrawn. -/
def destroy (id : WindowId) : Step Note Manager Unit := do
  match (← Step.get).record? id with
  | none => Note.say .warn ("destroy requested for unknown GLFW window " ++ id.text)
  | some r =>
    onDisplay (Display.destroy r.number)
    Step.modify fun m =>
      { m with
        windows := m.windows.remove id
        redrawRequests := m.redrawRequests.filter (· ≠ id) }
    Note.say .debug ("GLFW window " ++ id.text ++ " destroyed")

/-- The drawable of a window: its number, and where the display connection is. -/
def drawable (id : WindowId) : Step Note Manager (Except BackendError Drawable) :=
  Step.gets fun m =>
    match m.record? id with
    | none => .error (.unknownWindow id)
    | some r => .ok (.platform .xlib (UInt64.ofNat r.number) 4096)

/-! ## Changes -/

/-- The shape that the display has for a cursor icon. -/
def cursorShape : CursorIcon → CursorShape
  | .text | .verticalText => .beam
  | .crosshair | .cell => .crosshair
  | .hand | .grab | .grabbing => .hand
  | .eResize | .wResize | .ewResize | .colResize => .horizontalResize
  | .nResize | .sResize | .nsResize | .rowResize => .verticalResize
  | _ => .arrow

/-- How the display holds a cursor that a window holds and shows or hides. -/
def cursorMode (grab : CursorGrab) (isVisible : Bool) : CursorMode :=
  if grab = .locked then .disabled else if isVisible then .normal else .hidden

/-- Passes the cursor mode of a window on. -/
def sendCursorMode (r : Record) : Step Note Manager Unit :=
  onDisplay (Display.setCursorMode r.number (cursorMode r.cursorGrab r.cursorVisible))

/-- The description of an optional value. -/
def optionLabel {α : Type} (label : α → String) : Option α → String
  | none => "None"
  | some a => "Some(" ++ label a ++ ")"

/-- The description of a yes or no. -/
def boolLabel (b : Bool) : String := if b then "true" else "false"

/-- The description of a change that the display cannot make. -/
def unsupportedLabel? : WindowChange → Option String
  | .theme chosen => some ("Theme(" ++ optionLabel Vocabulary.label chosen ++ ")")
  | .resizeIncrements size => some ("ResizeIncrements(" ++ optionLabel Size.label size ++ ")")
  | .contentProtected isProtected =>
    some ("ContentProtected(" ++ boolLabel isProtected ++ ")")
  | .enabledButtons buttons => some ("EnabledButtons(" ++ buttons.label ++ ")")
  | .imeAllowed isAllowed => some ("ImeAllowed(" ++ boolLabel isAllowed ++ ")")
  | _ => none

/-- Moves a window so that its frame starts at a position. -/
def moveOuter (r : Record) (p : Position) : Step Note Manager Unit := do
  let d := (← Step.get).display
  let frame := ((d.window? r.number).map d.frameOf).getD ⟨0, 0, 0, 0⟩
  onDisplay (Display.setPosition r.number (p.x + frame.left) (p.y + frame.top))

/-- Why a change is refused: the display takes signed sizes and cannot confine the cursor. -/
def refusal? : WindowChange → Option BackendError
  | .innerSize size =>
    if size.width.toNat ≤ Int32.maxValue.toInt ∧ size.height.toNat ≤ Int32.maxValue.toInt then none
    else some (.unsupported "window size beyond i32::MAX")
  | .cursorGrab .confined => some (.unsupported "confined cursor grab")
  | _ => none

/-- Keeps a record and passes the size limits in it on. -/
def limitSize (id : WindowId) (r : Record) : Step Note Manager Unit := do
  putRecord id r
  sendLimits r

/-- Keeps a record and passes the cursor mode in it on. -/
def changeCursorMode (id : WindowId) (r : Record) : Step Note Manager Unit := do
  putRecord id r
  sendCursorMode r

/-- Applies a change that is not refused, all but a request to redraw. -/
def apply (id : WindowId) (r : Record) : WindowChange → Step Note Manager Unit
  | .title text => do
    onDisplay (Display.setTitle r.number text)
    putRecord id { r with title := text }
  | .visible true => onDisplay (Display.showWindow r.number)
  | .visible false => onDisplay (Display.hide r.number)
  | .resizable isResizable => onDisplay (Display.setResizable r.number isResizable)
  | .minimized true => onDisplay (Display.iconify r.number)
  | .maximized true => onDisplay (Display.maximize r.number)
  | .minimized false => onDisplay (Display.restore r.number)
  | .maximized false => onDisplay (Display.restore r.number)
  | .fullscreen _ => warnUnsupported true none
  | .decorated isDecorated => onDisplay (Display.setDecorated r.number isDecorated)
  | .level stackLevel => do
    warnUnsupported false (some stackLevel)
    onDisplay (Display.setFloating r.number (stackLevel = .alwaysOnTop))
  | .innerSize size =>
    onDisplay (Display.setSize r.number (Int32.ofInt size.width.toNat)
      (Int32.ofInt size.height.toNat))
  | .minInnerSize limit => limitSize id { r with minInnerSize := limit }
  | .maxInnerSize limit => limitSize id { r with maxInnerSize := limit }
  | .outerPosition p => moveOuter r p
  | .cursorIcon icon => onDisplay (Display.setCursor r.number (cursorShape icon))
  | .cursorGrab mode => changeCursorMode id { r with cursorGrab := mode }
  | .cursorVisible isVisible => changeCursorMode id { r with cursorVisible := isVisible }
  | .cursorPosition p => onDisplay (Display.setCursorPosition r.number p)
  | .focus => onDisplay (Display.focus r.number)
  | other =>
    match unsupportedLabel? other with
    | some label => Note.say .warn (label ++ " not supported by GLFW backend")
    | none => pure ()

/-- Takes note that a window asks to be redrawn; asking again changes nothing. -/
def requestRedraw (id : WindowId) : Step Note Manager Unit :=
  Step.modify fun m =>
    if m.redrawRequests.contains id then m
    else { m with redrawRequests := m.redrawRequests ++ [id] }

/-- Applies a change to a window. A request to redraw waits for the next look at the display. -/
def update (id : WindowId) (c : WindowChange) : Step Note Manager (Except BackendError Unit) := do
  match (← Step.get).record? id with
  | none => pure (.error (.unknownWindow id))
  | some r =>
    match refusal? c with
    | some e => pure (.error e)
    | none =>
      if c = .requestRedraw then requestRedraw id else apply id r c
      pure (.ok ())

/-! ## Queries -/

/-- Answers a query about a window. -/
def answer (d : Display) (r : Record) (w : DisplayWindow) : (q : Query) → q.Answer
  | .scaleFactor => w.scale.toDouble
  | .innerPosition => some w.position
  | .outerPosition =>
    let frame := d.frameOf w
    some ⟨w.position.x - frame.left, w.position.y - frame.top⟩
  | .innerSize => ⟨clampUnsigned w.width, clampUnsigned w.height⟩
  | .outerSize =>
    let frame := d.frameOf w
    ⟨clampUnsigned (w.width + frame.left + frame.right),
     clampUnsigned (w.height + frame.top + frame.bottom)⟩
  | .title => r.title
  | .isVisible => some w.visible
  | .isResizable => w.resizable
  | .isMinimized => w.iconified
  | .isMaximized => w.maximized
  | .isFullscreen => false
  | .isDecorated => w.decorated

/-- Answers a query. -/
def query (q : Query) (id : WindowId) : Step Note Manager (Except BackendError q.Answer) :=
  Step.gets fun m =>
    match m.record? id with
    | none => .error (.unknownWindow id)
    | some r =>
      match m.display.window? r.number with
      | none => .error (.unknownWindow id)
      | some w => .ok (answer m.display r w q)

/-- The extensions with which Vulkan surfaces are presented. -/
def requiredExtensions : Step Note Manager (Except BackendError (List String)) := do
  match ← onDisplay Display.vulkanExtensions with
  | some names => pure (.ok names)
  | none => pure (.error (.initialization "Failed to get required extensions"))

/-! ## Events -/

/-- The events of reports, each with its time. -/
def translateAll :
    List (WindowId × StampedReport) → Step Note Modifiers (List (Double × RawEvent))
  | [] => pure []
  | (id, stamped) :: rest => do
    let events ← stamped.report.translate id
    let others ← translateAll rest
    pure (events.map (stamped.time, ·) ++ others)

/-- All that was reported and not taken, in the order of the slots of the windows. -/
def reports (m : Manager) : List (WindowId × StampedReport) :=
  m.windows.toList.flatMap fun (id, r) => (m.display.reportsOf r.number).map (id, ·)

/-- Events in the order of their times; events of one time keep their order. -/
def inTimeOrder (batch : List (Double × RawEvent)) : List RawEvent :=
  (batch.mergeSort fun a b => a.1.rankLe b.1).map Prod.snd

/-- The frame of a batch of events and of the windows to redraw. There is none if both are
empty. -/
def frame (batch : List RawEvent) (redraws : List WindowId) : List RawEvent :=
  if batch.isEmpty && redraws.isEmpty then []
  else
    [.lifecycle .newEvents] ++ batch ++ [.lifecycle .mainEventsCleared] ++
      redraws.map (.window · .redrawRequested) ++ [.lifecycle .redrawEventsCleared]

/-- Takes all reports and redraw requests and puts their frame behind the pending events. -/
def pump : Step Note Manager Unit := do
  let m ← Step.get
  let batch ← (translateAll m.reports).within Manager.modifiers fun modifiers m =>
    { m with modifiers := modifiers }
  Step.modify fun m =>
    { m with
      display := m.display.takeReports (m.windows.toList.map fun entry => entry.2.number)
      redrawRequests := []
      pending := m.pending ++ frame (inTimeOrder batch) m.redrawRequests }

/-- Takes the oldest pending event. Without one, waits until the poll interval has passed. -/
def takePending : Step Note Manager (Poll Nat (Except BackendError RawEvent)) := do
  let m ← Step.get
  match m.pending with
  | event :: rest =>
    Step.modify fun m => { m with pending := rest }
    pure (.ready (.ok event))
  | [] => pure (.pending (m.clock + m.pollInterval))

/-- Looks for the next event: among the pending ones, then at the display. Someone who waits does
not look before the time has come. -/
def poll (deadline : Option Nat) : Step Note Manager (Poll Nat (Except BackendError RawEvent)) := do
  let m ← Step.get
  match deadline.filter (m.clock < ·) with
  | some time => pure (.pending time)
  | none =>
    if m.pending.isEmpty then pump
    takePending

/-- Lets time pass. -/
def advance (milliseconds : Nat) (m : Manager) : Manager :=
  { m with clock := m.clock + milliseconds }

end Manager

instance : WindowManager Manager Nat where
  create := Manager.create
  destroy := Manager.destroy
  drawable := Manager.drawable
  update := Manager.update
  setDeviceFilter filter :=
    Note.say .debug
      ("device event filter set to " ++ Vocabulary.label filter ++
        "; GLFW emits no device events")
  query := Manager.query
  poll := Manager.poll
  leave _ := pure ()
  close := Manager.close

end WindowSystem.Desktop
