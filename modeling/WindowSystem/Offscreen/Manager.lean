/-
# The offscreen window manager

A window manager without a display: windows are records in a slot table, and events wait in a
queue into which anyone may send. Changes of size, position and focus and redraw requests are
reported back as the events that a window system would send.
-/
import WindowSystem.Manager.Basic
import WindowSystem.Manager.SlotTable
import WindowSystem.Offscreen.Window

namespace WindowSystem.Offscreen

/-- The state of the offscreen window manager. -/
structure Manager where
  windows : SlotTable Window := {}
  /-- Events that nobody has taken, oldest first. -/
  queue : List RawEvent := []
  /-- Whether someone waits at the queue; others then wait behind. -/
  claimed : Bool := false
  filter : DeviceFilter := .unfocused
  focused : Option WindowId := none
  /-- The greatest number of windows at a time, if there is one. -/
  limit : Option Nat := none

/-- How someone waits for an event: at the queue, or behind the one who does. -/
inductive Waiter where
  | holder | behind
  deriving DecidableEq, Repr

namespace Manager

/-! ## Windows -/

/-- Creates a window unless there are as many as the limit allows. -/
def create (attributes : WindowAttributes) : Step Note Manager (Except BackendError WindowId) := do
  let m ← Step.get
  match m.limit.filter (· ≤ m.windows.size) with
  | some limit =>
    pure (.error (.windowCreation ("window limit of " ++ decimalText limit ++ " reached")))
  | none =>
    let (id, windows) := m.windows.insert (Window.ofAttributes attributes)
    Step.modify fun m => { m with windows := windows }
    Note.say .debug ("headless window " ++ id.text ++ " created")
    pure (.ok id)

/-- Destroys a window, which loses the focus if it had it. -/
def destroy (id : WindowId) : Step Note Manager Unit := do
  let m ← Step.get
  if m.windows.contains id then
    Step.modify fun m =>
      { m with
        windows := m.windows.remove id
        focused := if m.focused = some id then none else m.focused }
    Note.say .debug ("headless window " ++ id.text ++ " destroyed")
  else
    Note.say .warn ("destroy requested for unknown headless window " ++ id.text)

/-- The drawable of a window, which is handed out once. -/
def drawable (id : WindowId) : Step Note Manager (Except BackendError Drawable) := do
  let m ← Step.get
  match m.windows.get? id with
  | none => pure (.error (.unknownWindow id))
  | some w =>
    if w.drawableIssued then
      pure (.error (.surfaceCreation ("drawable for window " ++ id.text ++ " already created")))
    else
      Step.modify fun m => { m with windows := m.windows.set id { w with drawableIssued := true } }
      pure (.ok (.offscreen id.number))

/-- The answer of a window to a query. -/
def query (q : Query) (id : WindowId) : Step Note Manager (Except BackendError q.Answer) :=
  Step.gets fun m =>
    match m.windows.get? id with
    | none => .error (.unknownWindow id)
    | some w => .ok (w.answer q)

/-! ## Events -/

/-- Puts an event at the end of the queue. -/
def send (event : RawEvent) : Step Note Manager Unit :=
  Step.modify fun m => { m with queue := m.queue ++ [event] }

/-- Whether an event is delivered. Only device events can be held back. -/
def delivers (m : Manager) (event : RawEvent) : Bool :=
  !event.isDevice ||
    match m.filter with
    | .always => true
    | .unfocused => m.focused.isNone
    | .never => false

/-- Takes events from the queue up to the first that is delivered. Until there is one, the queue
stays claimed. -/
def take : Step Note Manager (Poll Waiter (Except BackendError RawEvent)) := fun m =>
  let heldBack := m.queue.takeWhile fun e => !m.delivers e
  let notes := heldBack.map fun e => Note.log .trace ("device event filtered: " ++ e.kind)
  match m.queue.dropWhile fun e => !m.delivers e with
  | [] => ⟨.pending .holder, { m with queue := [], claimed := true }, notes⟩
  | event :: rest => ⟨.ready (.ok event), { m with queue := rest, claimed := false }, notes⟩

/-- Looks for the next event, if nobody else waits at the queue. -/
def poll : Option Waiter → Step Note Manager (Poll Waiter (Except BackendError RawEvent))
  | some .holder => take
  | _ => do
    if (← Step.get).claimed then pure (.pending .behind) else take

/-- Gives up waiting. -/
def leave : Waiter → Step Note Manager Unit
  | .holder => Step.modify fun m => { m with claimed := false }
  | .behind => pure ()

/-- Gives a window the focus, which the previous one loses. -/
def focus (id : WindowId) : Step Note Manager Unit := do
  let m ← Step.get
  Step.modify fun m => { m with focused := some id }
  if m.focused = some id then pure ()
  else
    match m.focused.filter m.windows.contains with
    | some previous => send (.window previous (.focused false))
    | none => pure ()
    send (.window id (.focused true))

/-- What the manager reports back after a change that left a window with a given size. -/
def echo (id : WindowId) (innerSize : Size) : WindowChange → Step Note Manager Unit
  | .innerSize _ => send (.window id (.resized innerSize))
  | .outerPosition position => send (.window id (.moved position))
  | .focus => focus id
  | .requestRedraw => send (.window id .redrawRequested)
  | _ => pure ()

/-- Applies a change and reports it back. -/
def update (id : WindowId) (change : WindowChange) :
    Step Note Manager (Except BackendError Unit) := do
  let m ← Step.get
  match m.windows.get? id with
  | none => pure (.error (.unknownWindow id))
  | some w =>
    let changed := w.apply change
    Step.modify fun m => { m with windows := m.windows.set id changed }
    echo id changed.innerSize change
    pure (.ok ())

/-- Moves a window to a monitor with another scale factor. -/
def setScaleFactor (id : WindowId) (factor : Double) :
    Step Note Manager (Except BackendError Unit) := do
  let m ← Step.get
  match m.windows.get? id with
  | none => pure (.error (.unknownWindow id))
  | some w =>
    Step.modify fun m => { m with windows := m.windows.set id { w with scaleFactor := factor } }
    send (.window id (.scaleFactorChanged factor))
    pure (.ok ())

end Manager

instance : WindowManager Manager Waiter where
  create := Manager.create
  destroy := Manager.destroy
  drawable := Manager.drawable
  update := Manager.update
  setDeviceFilter filter := Step.modify fun m => { m with filter := filter }
  query := Manager.query
  poll := Manager.poll
  leave := Manager.leave
  close := pure ()

end WindowSystem.Offscreen
