/-
# Failures as records

The kinds of failures, a failure as the fields of its kind and its message, and the reading of
failures from records that give their kind and what they say.
-/
import WindowSystem.Datum.Reader
import WindowSystem.Failure

namespace WindowSystem

/-! ## Kinds -/

/-- The kind of a refusal of options. -/
def OptionsError.kind : OptionsError → String
  | .arity .. => "Arity"
  | .outOfRange .. => "OutOfRange"

/-- The kind of a backend failure. -/
def BackendError.kind : BackendError → String
  | .initialization _ => "Initialization"
  | .windowCreation _ => "WindowCreation"
  | .surfaceCreation _ => "SurfaceCreation"
  | .unknownWindow _ => "UnknownWindow"
  | .eventSourceClosed => "EventSourceClosed"
  | .unsupported _ => "Unsupported"

/-- The kind of a bridge failure; one from below is under the name of where it comes from. -/
def BridgeError.kind : BridgeError → String
  | .options e => "Configuration/" ++ e.kind
  | .backend e => "Backend/" ++ e.kind
  | .invalidHandle .. => "InvalidHandle"
  | .eventStreamBusy => "EventStreamBusy"

/-! ## Writing -/

/-- The fields of a failure. -/
def failureFields (kind message : String) : List (String × Datum) :=
  [("error", .text kind), ("message", .text message)]

def OptionsError.toFields (e : OptionsError) : List (String × Datum) :=
  failureFields e.kind e.message

def BackendError.toFields (e : BackendError) : List (String × Datum) :=
  failureFields e.kind e.message

def BridgeError.toFields (e : BridgeError) : List (String × Datum) :=
  failureFields e.kind e.message

/-! ## Reading -/

/-- Reads a backend failure. -/
def BackendError.ofFields? (fields : List (String × Datum)) : Option BackendError := do
  let text := Datum.required? Datum.text? fields "text"
  match ← Datum.required? Datum.text? fields "kind" with
  | "Initialization" => text.map .initialization
  | "WindowCreation" => text.map .windowCreation
  | "SurfaceCreation" => text.map .surfaceCreation
  | "UnknownWindow" => (Datum.required? Datum.windowId? fields "id").map .unknownWindow
  | "EventSourceClosed" => some .eventSourceClosed
  | "Unsupported" => text.map .unsupported
  | _ => none

/-- Reads a bridge failure; one from below has the kind that it has there. -/
def BridgeError.ofFields? (fields : List (String × Datum)) : Option BridgeError := do
  let text := Datum.required? Datum.text? fields
  let nat := Datum.required? (Datum.word? 64) fields
  match ← text "kind" with
  | "Arity" => pure (.options (.arity (← text "field") (← nat "found")))
  | "OutOfRange" =>
    pure (.options (.outOfRange (← text "field") (← nat "index")
      (← Datum.required? Datum.number? fields "value")))
  | "InvalidHandle" => pure (.invalidHandle (← text "operation") (← nat "argument"))
  | "EventStreamBusy" => pure .eventStreamBusy
  | _ => (BackendError.ofFields? fields).map .backend

end WindowSystem
