/-
# The scripted window manager

A window manager that does as it is told: it fails when it is set to fail, hands out the
identifiers it was given, and answers every query in the same way. It notes each request it
receives, so that a host can see what the bridge asked for.
-/
import WindowSystem.Manager.Basic

namespace WindowSystem.Scripted

/-- The script of a window manager and what it knows. -/
structure Manager where
  failCreate : Option BackendError := none
  failDrawable : Option BackendError := none
  failUpdate : Option BackendError := none
  /-- The window system of its drawables; offscreen ones without. -/
  platform : Option Platform := none
  /-- What its next looks for an event find. -/
  queue : List (Except BackendError RawEvent) := []
  /-- The identifiers it hands out next. -/
  ids : List WindowId := []
  /-- The last identifier that it chose itself. -/
  chosen : UInt64 := 0
  known : List WindowId := []

namespace Manager

/-- Notes a request. -/
def received (request : ManagerRequest) : Step Note Manager Unit :=
  Step.write (.manager request)

/-- Forgets a window. -/
def forget (id : WindowId) (m : Manager) : Manager :=
  { m with known := m.known.filter (· ≠ id) }

/-- The identifier that is handed out next. -/
def nextId (m : Manager) : WindowId × Manager :=
  match m.ids with
  | id :: rest => (id, { m with ids := rest })
  | [] => (⟨m.chosen + 1⟩, { m with chosen := m.chosen + 1 })

/-- Hands out the next identifier. -/
def create (attributes : WindowAttributes) : Step Note Manager (Except BackendError WindowId) := do
  received (.create attributes)
  let m ← Step.get
  match m.failCreate with
  | some e => pure (.error e)
  | none =>
    let (id, m) := m.nextId
    Step.modify fun _ => { m with known := id :: m.known.filter (· ≠ id) }
    pure (.ok id)

/-- An answer about a known window, unless another failure comes first. -/
def about {α : Type} (failure : Option BackendError) (id : WindowId) (answer : α) :
    Step Note Manager (Except BackendError α) := do
  let m ← Step.get
  match failure with
  | some e => pure (.error e)
  | none => pure (if m.known.contains id then .ok answer else .error (.unknownWindow id))

/-- The drawable of a window. -/
def drawable (id : WindowId) : Step Note Manager (Except BackendError Drawable) := do
  received (.drawable id)
  let m ← Step.get
  about m.failDrawable id <|
    match m.platform with
    | some kind => .platform kind id.number 0
    | none => .offscreen id.number

/-- Takes note of a change and does nothing. -/
def update (id : WindowId) (change : WindowChange) :
    Step Note Manager (Except BackendError Unit) := do
  received (.update id change)
  let m ← Step.get
  about m.failUpdate id ()

/-- The answer to every query. -/
def reply : (q : Query) → q.Answer
  | .scaleFactor => Double.ofDecimal false 25 (-1)
  | .innerPosition => none
  | .outerPosition => none
  | .innerSize => ⟨0, 0⟩
  | .outerSize => ⟨3, 4⟩
  | .title => ""
  | .isVisible => none
  | .isResizable => true
  | .isMinimized => false
  | .isMaximized => false
  | .isFullscreen => false
  | .isDecorated => true

/-- Answers a query about a known window. -/
def query (q : Query) (id : WindowId) : Step Note Manager (Except BackendError q.Answer) := do
  received (.query q id)
  about none id (reply q)

/-- Takes what is next in the queue. -/
def poll : Step Note Manager (Poll Unit (Except BackendError RawEvent)) := do
  match (← Step.get).queue with
  | next :: rest =>
    Step.modify fun m => { m with queue := rest }
    pure (.ready next)
  | [] => pure (.pending ())

end Manager

instance : WindowManager Manager Unit where
  create := Manager.create
  destroy id := do
    Manager.received (.destroy id)
    Step.modify (Manager.forget id)
  drawable := Manager.drawable
  update := Manager.update
  setDeviceFilter filter := Manager.received (.setDeviceFilter filter)
  query := Manager.query
  poll _ := Manager.poll
  leave _ := pure ()
  close := pure ()

end WindowSystem.Scripted
