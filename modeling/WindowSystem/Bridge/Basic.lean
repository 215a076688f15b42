/-
# The bridge

The state that joins scripts to a window system: one window manager behind its event stream, one
graphics backend, and the registry of window handles. All that a script does goes through the
operations on this state.
-/
import WindowSystem.Bridge.EventStream
import WindowSystem.Bridge.Registry
import WindowSystem.Settings.Basic
import WindowSystem.Surface.Backend

namespace WindowSystem

/-- A window manager of type `N` and a graphics backend of type `G`, whose surfaces are of type
`S`, with the handles of their windows. -/
structure Bridge (N G S : Type) where
  events : EventStream N
  graphics : G
  registry : Registry S := {}
  /-- How many surfaces were made so far. -/
  surfacesMade : Nat := 0
  /-- The options of windows that leave them open. -/
  defaultWindow : WindowOptions := {}

namespace Bridge

variable {N W G S α : Type} [WindowManager N W] [GraphicsBackend G S]

/-! ## Steps of the parts -/

/-- A step of the event stream. -/
def onEvents (s : Step Entry (EventStream N) α) : Step Entry (Bridge N G S) α :=
  s.within Bridge.events fun events b => { b with events := events }

/-- A step of the window manager that goes past the bridge. -/
def onManager (s : Step Note N α) : Step Entry (Bridge N G S) α :=
  onEvents (EventStream.onManager s)

/-- A call to the window manager. -/
def askManager (s : Step Note N α) (call : α → Call) : Step Entry (Bridge N G S) α :=
  onEvents (EventStream.ask s call)

/-- A call to the graphics backend. -/
def askGraphics (s : Step Note G α) (call : α → Call) : Step Entry (Bridge N G S) α := do
  let answer ← (s.mapJournal (Entry.note .graphics)).within Bridge.graphics fun g b =>
    { b with graphics := g }
  Step.write (.call (call answer))
  pure answer

/-- A step of the registry. -/
def onRegistry (s : Step Note (Registry S) α) : Step Entry (Bridge N G S) α :=
  (s.mapJournal (Entry.note .bridge)).within Bridge.registry fun r b => { b with registry := r }

/-- A change of the registry. -/
def changeRegistry (f : Registry S → Registry S) : Step Entry (Bridge N G S) Unit :=
  Step.modify fun b => { b with registry := f b.registry }

/-- The state of a handle. -/
def handle (h : HandleRef) : Step Entry (Bridge N G S) (Handle S) :=
  Step.gets fun b => b.registry.handle h

/-! ## Surfaces -/

/-- The drawable of a live window. One that was handed out before is kept on the handle. -/
def drawableOf (h : HandleRef) (id : WindowId) :
    Option Drawable → Step Entry (Bridge N G S) (Except BackendError Drawable)
  | some drawable => pure (.ok drawable)
  | none => do
    let answer ← askManager (WindowManager.drawable id) (.drawable id)
    match answer with
    | .ok drawable => changeRegistry fun r => r.setHandle h (.live id (some drawable) none)
    | .error _ => pure ()
    pure answer

/-- Makes a surface of a drawable and gives it the next number. -/
def makeSurface (drawable : Drawable) :
    Step Entry (Bridge N G S) (Except BackendError (BoundSurface S)) := do
  let number := (← Step.get).surfacesMade
  let answer ← askGraphics (GraphicsBackend.wrap drawable) fun answer =>
    .wrap drawable (answer.map fun _ => number)
  match answer with
  | .ok value =>
    Step.modify fun b => { b with surfacesMade := number + 1 }
    pure (.ok ⟨number, value⟩)
  | .error e => pure (.error e)

/-- The surface of a window, made on first use and bound to the handle. A failure leaves the
handle without a surface, but a drawable that was handed out stays on it. -/
def gpuSurface (h : HandleRef) :
    Step Entry (Bridge N G S) (Except BridgeError (BoundSurface S)) := do
  match ← handle h with
  | .destroyed => pure (.error (.invalidHandle "getGPUSurface" 1))
  | .live _ _ (some surface) => pure (.ok surface)
  | .live id kept none =>
    match ← drawableOf h id kept with
    | .error e => pure (.error (.backend e))
    | .ok drawable =>
      match ← makeSurface drawable with
      | .error e => pure (.error (.backend e))
      | .ok surface =>
        changeRegistry fun r => r.setHandle h (.live id (some drawable) (some surface))
        Entry.say .debug ("bound surface to window " ++ id.text)
        pure (.ok surface)

/-- Releases the surface of a window, if it has one. -/
def releaseSurface (h : HandleRef) : Step Entry (Bridge N G S) Unit := do
  match ← handle h with
  | .live id drawable (some surface) =>
    changeRegistry fun r => r.setHandle h (.live id drawable none)
    askGraphics (GraphicsBackend.release surface.value) fun _ => .release surface.number
    Entry.say .debug ("released surface of window Some(" ++ id.label ++ ")")
  | _ => pure ()

/-! ## Windows -/

/-- Creates a window from options laid over the defaults. Options are checked before the window
manager sees them. If the manager hands out the identifier of a live window, the handle of that
window loses its surface and is destroyed. -/
def createWindow (options : WindowOptions) :
    Step Entry (Bridge N G S) (Except BridgeError HandleRef) := do
  match (options.orElse (← Step.get).defaultWindow).attributes? with
  | .error e => pure (.error (.options e))
  | .ok attributes =>
    match ← askManager (WindowManager.create attributes) (.create attributes) with
    | .error e => pure (.error (.backend e))
    | .ok id =>
      let (h, stale) ← onRegistry (Registry.enter id)
      match stale with
      | some old =>
        releaseSurface old
        changeRegistry fun r => r.tombstone old
      | none => pure ()
      Entry.say .debug ("window " ++ id.text ++ " created")
      pure (.ok h)

/-- Destroys a window: releases its surface, destroys the native window, takes its handle out of
the registry and destroys the handle. -/
def destroyWindow (h : HandleRef) : Step Entry (Bridge N G S) (Except BridgeError Unit) := do
  match (← handle h).liveId "destroy" with
  | .error e => pure (.error e)
  | .ok id =>
    releaseSurface h
    askManager (WindowManager.destroy id) fun _ => .destroy id
    changeRegistry fun r => (r.remove id).tombstone h
    Entry.say .debug ("window " ++ id.text ++ " destroyed")
    pure (.ok ())

/-- The handle of the live window with an identifier. -/
def resolve (id : WindowId) : Step Entry (Bridge N G S) (Option HandleRef) :=
  Step.gets fun b => b.registry.resolve id

/-- The number of live windows. -/
def windowCount : Step Entry (Bridge N G S) Nat := Step.gets fun b => b.registry.size

/-- Every live window, ordered by identifier. -/
def windows : Step Entry (Bridge N G S) (List HandleRef) := Step.gets fun b => b.registry.windows

/-! ## Properties of a window -/

/-- Answers a query about a window. -/
def query (h : HandleRef) (q : Query) :
    Step Entry (Bridge N G S) (Except BridgeError q.Answer) := do
  match (← handle h).liveId q.operation with
  | .error e => pure (.error e)
  | .ok id =>
    let answer ← askManager (WindowManager.query q id) (.query id q)
    pure (answer.mapError .backend)

/-- Changes a window on behalf of a script operation. -/
def changeBy (operation : String) (h : HandleRef) (change : WindowChange) :
    Step Entry (Bridge N G S) (Except BridgeError Unit) := do
  match (← handle h).liveId operation with
  | .error e => pure (.error e)
  | .ok id =>
    let answer ← askManager (WindowManager.update id change) (.update id change)
    pure (answer.mapError .backend)

/-- Changes a window. -/
def change (h : HandleRef) (change : WindowChange) :
    Step Entry (Bridge N G S) (Except BridgeError Unit) :=
  changeBy change.operation h change

/-- Changes the stacking level of a window in the older spelling. -/
def setAlwaysOnTop (h : HandleRef) (onTop : Bool) :
    Step Entry (Bridge N G S) (Except BridgeError Unit) :=
  changeBy "setAlwaysOnTop" h (.level (.ofOnTop onTop))

/-! ## Events -/

/-- Chooses when device events are delivered. -/
def setDeviceFilter (filter : DeviceFilter) : Step Entry (Bridge N G S) Unit :=
  askManager (WindowManager.setDeviceFilter filter) fun _ => .setDeviceFilter filter

/-- Looks for the next event on behalf of a consumer. Its window is the handle entered now. -/
def pollEvent (consumer : Consumer W) :
    Step Entry (Bridge N G S)
      (Poll (Consumer W) (Except BridgeError (Event (Option HandleRef)))) := do
  let registry := (← Step.get).registry
  onEvents (EventStream.poll registry.resolve consumer)

/-- A consumer gives up. -/
def cancelEvent (consumer : Consumer W) : Step Entry (Bridge N G S) Unit :=
  onEvents (EventStream.cancel consumer)

/-! ## Beginning and end -/

/-- Brings a window manager and a graphics backend together under some settings. -/
def start (manager : N) (graphics : G) (settings : Settings) :
    Outcome Entry (Bridge N G S) Unit :=
  let announce : Step Entry (Bridge N G S) Unit := do
    setDeviceFilter settings.deviceFilter
    Entry.say .info
      ("WSI context ready (device events: " ++ Vocabulary.label settings.deviceFilter ++ ")")
  announce.run { events := ⟨manager, false⟩, graphics, defaultWindow := settings.defaultWindow }

/-- Destroys a window at the end. -/
def destroyLeftover (h : HandleRef) : Step Entry (Bridge N G S) Unit := do
  match ← destroyWindow h with
  | .ok _ => pure ()
  | .error e => Entry.say .warn ("failed to destroy window at shutdown: " ++ e.message)

/-- Destroys the windows that are left, in the order of their identifiers, then lets the window
manager go, then the graphics backend. -/
def close : Step Entry (Bridge N G S) Unit := do
  let remaining ← windows
  if remaining.isEmpty then pure ()
  else
    Entry.say .debug
      ("destroying " ++ decimalText remaining.length ++ " windows left at shutdown")
    Step.forEach destroyLeftover remaining
  askManager WindowManager.close fun _ => .closeManager
  askGraphics GraphicsBackend.close fun _ => .closeGraphics

end Bridge

end WindowSystem
