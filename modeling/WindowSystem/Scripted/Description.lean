/-
# Scripts as they are described

Reading a change of the scripts of the scripted backends from a record. A failure that is null is
taken back, and what is not described stays.
-/
import WindowSystem.Failure.Record
import WindowSystem.Scripted.Graphics
import WindowSystem.Scripted.Manager

namespace WindowSystem.Scripted

/-- A failure that is set, taken back by null, or left alone. -/
def failure? (fields : List (String × Datum)) (key : String) :
    Option (Option (Option BackendError)) :=
  match Datum.lookup fields key with
  | none => some none
  | some .null => some (some none)
  | some (.record error) => (BackendError.ofFields? error).map fun e => some (some e)
  | some _ => none

/-- The window system of the drawables: by its name, or whether there is one at all. -/
def platform? : Datum → Option (Option Platform)
  | .bool true => some (some .web)
  | .bool false => some none
  | d => (d.text?.bind Vocabulary.ofName?).map some

/-- A change of the script of a window manager, in which `window?` reads identifiers of windows. -/
def Manager.changeOf? (window? : Datum → Option WindowId) (fields : List (String × Datum)) :
    Option (Manager → Manager) := do
  let failCreate ← failure? fields "fail_create"
  let failDrawable ← failure? fields "fail_surface"
  let failUpdate ← failure? fields "fail_update"
  let failEvent ← failure? fields "fail_event"
  let platform ← match Datum.lookup fields "raw" with
    | none => some none
    | some d => (platform? d).map some
  let ids ← Datum.defaulted? (Datum.listOf? Datum.windowId?) [] fields "ids"
  let forgotten ← match Datum.lookup fields "forget" with
    | none => some []
    | some d => (window? d).map ([·])
  pure fun m =>
    { m with
      failCreate := failCreate.getD m.failCreate
      failDrawable := failDrawable.getD m.failDrawable
      failUpdate := failUpdate.getD m.failUpdate
      platform := platform.getD m.platform
      ids := m.ids ++ ids
      queue := m.queue ++ (failEvent.join.map Except.error).toList
      known := m.known.filter (!forgotten.contains ·) }

/-- A change of the script of a graphics backend. -/
def Graphics.changeOf? (fields : List (String × Datum)) : Option (Graphics → Graphics) := do
  let failWrap ← failure? fields "fail_wrap"
  pure fun g => { g with failWrap := failWrap.getD g.failWrap }

end WindowSystem.Scripted
