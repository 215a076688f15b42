/-
# Options and settings as they are described

Reading window options and settings from records in which the number lists may also hold the names
of values without digits.
-/
import WindowSystem.Datum.Reader
import WindowSystem.Settings.Basic

namespace WindowSystem

/-- The options that are lists of numbers. -/
def WindowOptions.listNames : List String :=
  ["innerSize", "minInnerSize", "maxInnerSize", "position", "resizeIncrements"]

/-- The numbers that names stand for, in a list. -/
def Datum.withNumbers : Datum → Datum
  | list items =>
    list <| items.map fun item =>
      match item with
      | text _ => (item.number?.map float).getD item
      | _ => item
  | d => d

/-- A record of options in which names of numbers are replaced by the numbers. -/
def WindowOptions.withNumbers : Datum → Datum
  | .record fields =>
    .record <| fields.map fun (key, d) =>
      (key, if listNames.contains key then d.withNumbers else d)
  | d => d

/-- Reads window options from a record. -/
def WindowOptions.ofDescription? (d : Datum) : Option WindowOptions :=
  match withNumbers d with
  | .record fields => ofFields? Datum.isNull fields
  | _ => none

/-- Reads settings from a record. -/
def Settings.ofDescription? : Datum → Option Settings
  | .record fields =>
    match Datum.lookup fields "default_window" with
    | some (.record _) | none =>
      ofFields? Datum.isNull <| fields.map fun (key, d) =>
        (key, if key == "default_window" then WindowOptions.withNumbers d else d)
    | some _ => none
  | _ => none

end WindowSystem
