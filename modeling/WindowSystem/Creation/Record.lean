/-
# Window options as records

The fields of window options under the names that scripts use, in the order in which they are
written, and the reading of such a record. Unknown fields are ignored.
-/
import WindowSystem.Creation.Options
import WindowSystem.Datum.Basic

namespace WindowSystem.WindowOptions

/-- A list of numbers. -/
def numbers (xs : List Double) : Datum := .list (xs.map .float)

/-- The fields of window options; an absent one is null. -/
def toFields (o : WindowOptions) : List (String × Datum) :=
  [("innerSize", .ofOption numbers o.innerSize),
   ("minInnerSize", .ofOption numbers o.minInnerSize),
   ("maxInnerSize", .ofOption numbers o.maxInnerSize),
   ("position", .ofOption numbers o.position),
   ("resizeIncrements", .ofOption numbers o.resizeIncrements),
   ("resizable", .ofOption .bool o.resizable),
   ("enabledButtons", .ofOption (fun b => .nat b.toNat) o.enabledButtons),
   ("title", .ofOption .text o.title),
   ("fullscreen", .ofOption .bool o.fullscreen),
   ("maximized", .ofOption .bool o.maximized),
   ("visible", .ofOption .bool o.visible),
   ("transparent", .ofOption .bool o.transparent),
   ("decorated", .ofOption .bool o.decorated),
   ("alwaysOnTop", .ofOption .bool o.alwaysOnTop),
   ("level", .ofOption .named o.level),
   ("theme", .ofOption .named o.theme),
   ("contentProtected", .ofOption .bool o.contentProtected),
   ("active", .ofOption .bool o.active)]

/-- The names of the fields, in order. -/
def fieldNames : List String := (toFields {}).map Prod.fst

/-- Window options as a record. -/
def toDatum (o : WindowOptions) : Datum := .record o.toFields

/-- Reads window options from the fields of a record. What stands beside the name of a level or a
theme that is given as a record is recognised by `isNothing`. -/
def ofFields? (isNothing : Datum → Bool) (fields : List (String × Datum)) :
    Option WindowOptions := do
  let list := Datum.optional? (Datum.listOf? Datum.double?) fields
  let bool := Datum.optional? Datum.bool? fields
  pure
    { innerSize := ← list "innerSize"
      minInnerSize := ← list "minInnerSize"
      maxInnerSize := ← list "maxInnerSize"
      position := ← list "position"
      resizeIncrements := ← list "resizeIncrements"
      resizable := ← bool "resizable"
      enabledButtons := ← Datum.optional? Datum.uint32? fields "enabledButtons"
      title := ← Datum.optional? Datum.text? fields "title"
      fullscreen := ← bool "fullscreen"
      maximized := ← bool "maximized"
      visible := ← bool "visible"
      transparent := ← bool "transparent"
      decorated := ← bool "decorated"
      alwaysOnTop := ← bool "alwaysOnTop"
      level := ← Datum.optional? (Datum.variant? isNothing) fields "level"
      theme := ← Datum.optional? (Datum.variant? isNothing) fields "theme"
      contentProtected := ← bool "contentProtected"
      active := ← bool "active" }

/-- Reads window options from a record, or from a list that gives the values of the first fields
in order. -/
def ofDatum? (isNothing : Datum → Bool) (d : Datum) : Option WindowOptions :=
  (d.fieldsOf? fieldNames).bind (ofFields? isNothing)

end WindowSystem.WindowOptions
