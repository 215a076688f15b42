/-
# TOML documents: writing

A record as a TOML document: its plain values first, each on a line of its own, then its
sub-records as tables with headers. Fields that are null are left out. What TOML cannot say, an
integer beyond 64 bits with sign or a null inside a list, makes the whole record unwritable.
-/
import WindowSystem.Datum.Basic
import WindowSystem.Toml.Literal

namespace WindowSystem.Toml

/-- How lists are laid out: on one line, or one item per line from two items on. -/
inductive Layout where
  | compact | pretty
  deriving DecidableEq, Repr

/-- The integers that TOML can say. -/
def inRange (n : Int) : Bool := Int64.minValue.toInt ≤ n && n ≤ Int64.maxValue.toInt

mutual

/-- The text of a value that is no record. -/
def valueText (layout : Layout) : Datum → Option (List Char)
  | .null => none
  | .bool b => some (if b then "true" else "false").toList
  | .int n => if inRange n then some (integerText n).toList else none
  | .float x => some (x.textIn doubleStyle).toList
  | .text s => some (stringLiteral s)
  | .list items => do
    let texts ← itemTexts layout items
    if layout = .pretty ∧ 2 ≤ texts.length then
      some ('[' :: texts.flatMap (fun t => "\n    ".toList ++ t ++ [',']) ++ ['\n', ']'])
    else some ('[' :: (", ".toList).intercalate texts ++ [']'])
  | .record _ => none

/-- The texts of the items of a list. -/
def itemTexts (layout : Layout) : List Datum → Option (List (List Char))
  | [] => some []
  | d :: rest => do
    let text ← valueText layout d
    let texts ← itemTexts layout rest
    some (text :: texts)

end

/-- The lines of the plain values among some fields. -/
def valueLines (layout : Layout) : List (String × Datum) → Option (List (List Char))
  | [] => some []
  | (key, d) :: rest =>
    match d with
    | .null => valueLines layout rest
    | .record _ => valueLines layout rest
    | d => do
      let text ← valueText layout d
      let lines ← valueLines layout rest
      some ((keyText key ++ " = ".toList ++ text) :: lines)

/-- The header of a table. -/
def headerLine (path : List String) : List Char :=
  '[' :: ['.'].intercalate (path.map keyText) ++ [']']

mutual

/-- The lines of a table: its header, unless it is the whole document or holds tables only, and
its values; then its sub-tables. An empty line parts a header from what stands before it. -/
def tableLines (layout : Layout) (path : List String) (fields : List (String × Datum))
    (started : Bool) : Option (List (List Char)) := do
  let values ← valueLines layout fields
  let shown := !path.isEmpty && (fields.all (fun f => f.2.isNull) || !values.isEmpty)
  let opening :=
    if shown then (if started then [[], headerLine path] else [headerLine path]) else []
  let below ← subtableLines layout path fields (started || shown || !values.isEmpty)
  some (opening ++ values ++ below)

/-- The lines of the sub-records among some fields. -/
def subtableLines (layout : Layout) (path : List String) (fields : List (String × Datum))
    (started : Bool) : Option (List (List Char)) :=
  match fields with
  | [] => some []
  | (key, .record inner) :: rest => do
    let lines ← tableLines layout (path ++ [key]) inner started
    let more ← subtableLines layout path rest (started || !lines.isEmpty)
    some (lines ++ more)
  | _ :: rest => subtableLines layout path rest started

end

/-- The text of a document, or `none` where TOML cannot say it. -/
def document? (layout : Layout) (fields : List (String × Datum)) : Option String :=
  (tableLines layout [] fields false).map fun lines =>
    String.ofList (lines.flatMap (· ++ ['\n']))

end WindowSystem.Toml
