/-
# The journal

What the parts of the window system write while they work: log records, and the requests they
make of a display, of the Vulkan loader, or of a scripted backend. The bridge also records every
call that it makes to its window manager and its graphics backend, with the answer.
-/
import WindowSystem.Creation.Attributes
import WindowSystem.Desktop.Request
import WindowSystem.Event.Basic
import WindowSystem.Manager.Change
import WindowSystem.Manager.Query
import WindowSystem.Step
import WindowSystem.Surface.Drawable
import WindowSystem.Vulkan.Call

namespace WindowSystem

/-- How much a log record matters. -/
inductive LogLevel where
  | error | warn | info | debug | trace
  deriving DecidableEq, Repr

instance : Vocabulary LogLevel where
  all := [.error, .warn, .info, .debug, .trace]
  name
    | .error => "ERROR"
    | .warn => "WARN"
    | .info => "INFO"
    | .debug => "DEBUG"
    | .trace => "TRACE"
  label
    | .error => "Error"
    | .warn => "Warn"
    | .info => "Info"
    | .debug => "Debug"
    | .trace => "Trace"

/-- A request that a scripted window manager received. -/
inductive ManagerRequest where
  | create (attributes : WindowAttributes)
  | destroy (id : WindowId)
  | drawable (id : WindowId)
  | update (id : WindowId) (change : WindowChange)
  | setDeviceFilter (filter : DeviceFilter)
  | query (q : Query) (id : WindowId)
  deriving DecidableEq, Repr

/-- A request that a scripted graphics backend received. -/
inductive GraphicsRequest where
  | wrap (drawable : Drawable)
  | release (serial : Nat)
  deriving DecidableEq, Repr

/-- What a window manager or a graphics backend writes. -/
inductive Note where
  | log (level : LogLevel) (text : String)
  | manager (request : ManagerRequest)
  | graphics (request : GraphicsRequest)
  | display (request : Desktop.Request)
  | vulkan (call : Vulkan.Call)
  deriving DecidableEq, Repr

/-- A call of the bridge to its backends, with the answer it got. Surfaces are known by the order
in which they were made. -/
inductive Call where
  | create (attributes : WindowAttributes) (answer : Except BackendError WindowId)
  | destroy (id : WindowId)
  | drawable (id : WindowId) (answer : Except BackendError Drawable)
  | update (id : WindowId) (change : WindowChange) (answer : Except BackendError Unit)
  | query (id : WindowId) (q : Query) (answer : Except BackendError q.Answer)
  | setDeviceFilter (filter : DeviceFilter)
  /-- One look for the next event; no answer while there is none. -/
  | poll (answer : Option (Except BackendError RawEvent))
  /-- A wait for the next event was given up. -/
  | leave
  | wrap (drawable : Drawable) (answer : Except BackendError Nat)
  | release (surface : Nat)
  | closeManager
  | closeGraphics

/-- The part of the window system that wrote a note. -/
inductive Author where
  | bridge | manager | graphics
  deriving DecidableEq, Repr

/-- An entry in the journal of the bridge: a note with its author, or a call that the bridge made
to its backends. What was written during a call stands before it. -/
inductive Entry where
  | note (author : Author) (note : Note)
  | call (call : Call)

namespace Entry

/-- The note of an entry, if it is one. -/
def note? : Entry → Option Note
  | .note _ n => some n
  | .call _ => none

/-- The note of an entry, if it is one by a given author. -/
def noteBy? (author : Author) : Entry → Option Note
  | .note writer n => if writer = author then some n else none
  | .call _ => none

/-- The call of an entry, if it is one. -/
def call? : Entry → Option Call
  | .call c => some c
  | .note .. => none

/-- The calls of a journal, in order. -/
def calls (journal : List Entry) : List Call := journal.filterMap call?

/-- The notes in a journal by an author, in order. -/
def notesBy (author : Author) (journal : List Entry) : List Note :=
  journal.filterMap (noteBy? author)

@[simp]
theorem calls_nil : calls [] = [] := rfl

@[simp]
theorem calls_append (a b : List Entry) : calls (a ++ b) = calls a ++ calls b :=
  List.filterMap_append

@[simp]
theorem calls_cons_call (c : Call) (rest : List Entry) :
    calls (.call c :: rest) = c :: calls rest := rfl

@[simp]
theorem calls_cons_note (author : Author) (n : Note) (rest : List Entry) :
    calls (.note author n :: rest) = calls rest := rfl

/-- Notes hold no calls. -/
@[simp]
theorem calls_map_note (author : Author) (notes : List Note) :
    calls (notes.map (.note author)) = [] := by
  induction notes with
  | nil => rfl
  | cons n rest ih => simpa using ih

@[simp]
theorem notesBy_nil (author : Author) : notesBy author [] = [] := rfl

@[simp]
theorem notesBy_cons_call (author : Author) (c : Call) (rest : List Entry) :
    notesBy author (.call c :: rest) = notesBy author rest := rfl

@[simp]
theorem notesBy_cons_note_of_ne {author writer : Author} (h : writer ≠ author) (n : Note)
    (rest : List Entry) : notesBy author (.note writer n :: rest) = notesBy author rest :=
  List.filterMap_cons_none (if_neg h)

@[simp]
theorem notesBy_append (author : Author) (a b : List Entry) :
    notesBy author (a ++ b) = notesBy author a ++ notesBy author b :=
  List.filterMap_append

/-- Everything an author wrote is by that author. -/
@[simp]
theorem notesBy_map_note (author : Author) (notes : List Note) :
    notesBy author (notes.map (.note author)) = notes := by
  induction notes with
  | nil => rfl
  | cons n rest ih => simpa [notesBy, noteBy?] using ih

/-- Nothing an author wrote is by another. -/
@[simp]
theorem notesBy_map_note_of_ne {author writer : Author} (h : writer ≠ author)
    (notes : List Note) : notesBy author (notes.map (.note writer)) = [] := by
  induction notes with
  | nil => rfl
  | cons n rest ih => rw [List.map_cons, notesBy_cons_note_of_ne h, ih]

end Entry

/-! ## Writing log records -/

/-- Writes a log record into a journal of notes. -/
def Note.say {σ : Type} (level : LogLevel) (text : String) : Step Note σ Unit :=
  Step.write (.log level text)

/-- Writes a log record into the journal of the bridge. -/
def Entry.say {σ : Type} (level : LogLevel) (text : String) : Step Entry σ Unit :=
  Step.write (.note .bridge (.log level text))

end WindowSystem
