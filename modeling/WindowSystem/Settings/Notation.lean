/-
# Settings in RON

Settings and window options as RON structures, and their reading. Absent fields take their
defaults, unknown ones are ignored, and a known field stands at most once.
-/
import WindowSystem.Ron.Decode
import WindowSystem.Settings.Basic

namespace WindowSystem

open Ron

/-! ## Window options -/

namespace WindowOptions

/-- The name that a structure of window options may bear. -/
def structName : String := "CreateWindowOptions"

/-- A value of a vocabulary, by name. -/
def nameTerm {α : Type} [Vocabulary α] (a : α) : Term := .name (Vocabulary.name a)

/-- Window options as a structure with every field. -/
def toTerm (o : WindowOptions) : Term :=
  let numbers (xs : List Double) : Term := .list (xs.map Ron.ofDouble)
  .struct none
    [("innerSize", Ron.ofOption numbers o.innerSize),
     ("minInnerSize", Ron.ofOption numbers o.minInnerSize),
     ("maxInnerSize", Ron.ofOption numbers o.maxInnerSize),
     ("position", Ron.ofOption numbers o.position),
     ("resizeIncrements", Ron.ofOption numbers o.resizeIncrements),
     ("resizable", Ron.ofOption .bool o.resizable),
     ("enabledButtons", Ron.ofOption (fun b => Ron.ofNat b.toNat) o.enabledButtons),
     ("title", Ron.ofOption .text o.title),
     ("fullscreen", Ron.ofOption .bool o.fullscreen),
     ("maximized", Ron.ofOption .bool o.maximized),
     ("visible", Ron.ofOption .bool o.visible),
     ("transparent", Ron.ofOption .bool o.transparent),
     ("decorated", Ron.ofOption .bool o.decorated),
     ("alwaysOnTop", Ron.ofOption .bool o.alwaysOnTop),
     ("level", Ron.ofOption nameTerm o.level),
     ("theme", Ron.ofOption nameTerm o.theme),
     ("contentProtected", Ron.ofOption .bool o.contentProtected),
     ("active", Ron.ofOption .bool o.active)]

/-- Reads window options from a structure. -/
def ofTerm? (extensions : Extensions) (t : Term) : Option WindowOptions := do
  let fields ← t.fields? structName
  let optional {α : Type} (f : Term → Option α) (key : String) : Option (Option α) :=
    Term.field? (Term.option? extensions f) none fields key
  let list := optional (Term.listOf? Term.double?)
  let bool := optional Term.bool?
  pure
    { innerSize := ← list "innerSize"
      minInnerSize := ← list "minInnerSize"
      maxInnerSize := ← list "maxInnerSize"
      position := ← list "position"
      resizeIncrements := ← list "resizeIncrements"
      resizable := ← bool "resizable"
      enabledButtons := ← optional (fun t => (t.word? 32).map UInt32.ofNat) "enabledButtons"
      title := ← optional Term.text? "title"
      fullscreen := ← bool "fullscreen"
      maximized := ← bool "maximized"
      visible := ← bool "visible"
      transparent := ← bool "transparent"
      decorated := ← bool "decorated"
      alwaysOnTop := ← bool "alwaysOnTop"
      level := ← optional Term.named? "level"
      theme := ← optional Term.named? "theme"
      contentProtected := ← bool "contentProtected"
      active := ← bool "active" }

end WindowOptions

/-! ## Settings -/

namespace Settings

/-- The name that a structure of settings may bear. -/
def structName : String := "WsiConfig"

/-- Settings as a structure with every field. -/
def toTerm (s : Settings) : Term :=
  .struct none
    [("default_window", s.defaultWindow.toTerm),
     ("device_event_filter", WindowOptions.nameTerm s.deviceFilter),
     ("poll_interval_ms", Ron.ofNat s.pollIntervalMs.toNat),
     ("log_filter", Ron.ofOption .text s.logFilter)]

/-- Reads settings from a structure. -/
def ofTerm? (extensions : Extensions) (t : Term) : Option Settings := do
  let fields ← t.fields? structName
  let defaults : Settings := {}
  pure
    { defaultWindow :=
        ← Term.field? (WindowOptions.ofTerm? extensions) defaults.defaultWindow fields
          "default_window"
      deviceFilter := ← Term.field? Term.named? defaults.deviceFilter fields "device_event_filter"
      pollIntervalMs :=
        ← Term.field? (fun t => (t.word? 64).map UInt64.ofNat) defaults.pollIntervalMs fields
          "poll_interval_ms"
      logFilter :=
        ← Term.field? (Term.option? extensions Term.text?) defaults.logFilter fields "log_filter" }

end Settings

end WindowSystem
