/-
# Settings

What the host of a bridge configures: the options new windows start from, when device events
are delivered, how often a polling window manager looks for events, and what is logged.
-/
import WindowSystem.Creation.Record

namespace WindowSystem

/-- The settings of one bridge. -/
structure Settings where
  /-- Options every new window starts from; a script's options win field by field. -/
  defaultWindow : WindowOptions := {}
  /-- When device events are delivered, from the start of the bridge. -/
  deviceFilter : DeviceFilter := .unfocused
  /-- Pause between two looks for events that found nothing, in milliseconds. -/
  pollIntervalMs : UInt64 := 4
  /-- Which log records are kept. -/
  logFilter : Option String := none
  deriving DecidableEq, Repr, Inhabited

namespace Settings

/-- The pause between two looks for events, in whole seconds and the nanoseconds beyond. -/
def pollInterval (s : Settings) : Nat × Nat :=
  (s.pollIntervalMs.toNat / 1000, s.pollIntervalMs.toNat % 1000 * 1000000)

/-- Equality with numbers compared as numbers. -/
def sameAs (a b : Settings) : Bool :=
  a.defaultWindow.sameAs b.defaultWindow && a.deviceFilter == b.deviceFilter &&
    a.pollIntervalMs == b.pollIntervalMs && a.logFilter == b.logFilter

/-- The fields of settings. -/
def toFields (s : Settings) : List (String × Datum) :=
  [("default_window", s.defaultWindow.toDatum),
   ("device_event_filter", .named s.deviceFilter),
   ("poll_interval_ms", .nat s.pollIntervalMs.toNat),
   ("log_filter", .ofOption .text s.logFilter)]

/-- Settings as a record. -/
def toDatum (s : Settings) : Datum := .record s.toFields

/-- Reads settings from the fields of a record. Every field may be absent; only the log filter
may be null. What stands beside a name that is given as a record is recognised by `isNothing`. -/
def ofFields? (isNothing : Datum → Bool) (fields : List (String × Datum)) : Option Settings := do
  let defaults : Settings := {}
  pure
    { defaultWindow :=
        ← Datum.defaulted? (WindowOptions.ofDatum? isNothing) defaults.defaultWindow fields
          "default_window"
      deviceFilter :=
        ← Datum.defaulted? (Datum.variant? isNothing) defaults.deviceFilter fields
          "device_event_filter"
      pollIntervalMs :=
        ← Datum.defaulted? Datum.uint64? defaults.pollIntervalMs fields "poll_interval_ms"
      logFilter := ← Datum.optional? Datum.text? fields "log_filter" }

end Settings

end WindowSystem
