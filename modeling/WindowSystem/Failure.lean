/-
# Failures

What can go wrong between a script and its windows: options that do not describe a window,
failures of the window manager or the graphics backend, and misuse of a handle or of the event
stream. Each cause has one message.
-/
import WindowSystem.Identity

namespace WindowSystem

/-- Why window options were refused. -/
inductive OptionsError where
  /-- A size or position list does not have two components. -/
  | arity (field : String) (found : Nat)
  /-- A component is not finite or does not fit its integer type. -/
  | outOfRange (field : String) (index : Nat) (value : Double)
  deriving DecidableEq, Repr

/-- What a window manager or a graphics backend reports. -/
inductive BackendError where
  | initialization (text : String)
  | windowCreation (text : String)
  | surfaceCreation (text : String)
  | unknownWindow (id : WindowId)
  | eventSourceClosed
  | unsupported (feature : String)
  deriving DecidableEq, Repr

/-- What an operation of the bridge reports to its caller. -/
inductive BridgeError where
  | options (e : OptionsError)
  /-- The operation was called on a destroyed window; arguments count from one. -/
  | invalidHandle (operation : String) (argument : Nat)
  | backend (e : BackendError)
  /-- The next event was asked for while another consumer waits for it. -/
  | eventStreamBusy
  deriving DecidableEq, Repr

/-- Why settings could not be loaded or saved. -/
inductive SettingsError where
  | io (text : String)
  | parse (text : String)
  | serialize (text : String)
  | unsupportedFormat (path : String)
  deriving DecidableEq, Repr

/-- The message of a refused options record. -/
def OptionsError.message : OptionsError → String
  | .arity field found =>
    "'" ++ field ++ "' must have exactly 2 components, got " ++ decimalText found
  | .outOfRange field index value =>
    "'" ++ field ++ "' component " ++ decimalText index ++ " is out of range: " ++ value.text

/-- The message of a backend failure. -/
def BackendError.message : BackendError → String
  | .initialization text => "Backend initialization failed: " ++ text
  | .windowCreation text => "Window creation failed: " ++ text
  | .surfaceCreation text => "Surface creation failed: " ++ text
  | .unknownWindow id => "Unknown window " ++ id.text
  | .eventSourceClosed => "Native event source closed"
  | .unsupported feature => "Not supported by this backend: " ++ feature

/-- The message of a bridge failure; failures from below keep theirs. -/
def BridgeError.message : BridgeError → String
  | .options e => e.message
  | .invalidHandle operation argument =>
    "Failed to execute '" ++ operation ++ "' on 'Window': argument " ++ decimalText argument ++
      " is a destroyed window"
  | .backend e => e.message
  | .eventStreamBusy =>
    "nextEvent is already waiting for an event; only one consumer may wait at a time"

/-- The message of a settings failure. -/
def SettingsError.message : SettingsError → String
  | .io text => "IO error: " ++ text
  | .parse text => "Parse error: " ++ text
  | .serialize text => "Serialization error: " ++ text
  | .unsupportedFormat path => "Unsupported format: " ++ path

/-- Equality as a caller compares failures: the offending value is compared as a number, so that
a failure about a value that is not a number differs even from itself. -/
def OptionsError.sameAs : OptionsError → OptionsError → Bool
  | .outOfRange f i x, .outOfRange g j y => f == g && i == j && x.sameNumber y
  | a, b => a == b

/-- Equality as a caller compares failures of the bridge. -/
def BridgeError.sameAs : BridgeError → BridgeError → Bool
  | .options a, .options b => a.sameAs b
  | a, b => a == b

end WindowSystem
