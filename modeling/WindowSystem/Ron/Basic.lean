/-
# RON values

The values of the RON notation as they are written: optional values are marked, structures may
bear a name, and names stand for the variants of an enumeration.
-/
import WindowSystem.Datum.Basic

namespace WindowSystem.Ron

/-- A value of the notation. Numbers keep their text, since what they mean depends on what is
wanted. -/
inductive Term where
  | number (literal : List Char)
  | bool (b : Bool)
  | text (s : String)
  | char (c : Char)
  | absent
  | present (t : Term)
  | name (s : String)
  | list (items : List Term)
  | map (entries : List (Term × Term))
  | tuple (name : Option String) (items : List Term)
  | struct (name : Option String) (fields : List (String × Term))
  deriving Repr, Inhabited

end WindowSystem.Ron
