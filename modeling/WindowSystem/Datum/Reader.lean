/-
# Readers of plain data

How numbers, pairs, points and other small values are read where a person writes them: a number
may also be one of the names of the values that have no digits, and a value of a vocabulary is
given by its label.
-/
import WindowSystem.Datum.Json
import WindowSystem.Event.Input
import WindowSystem.Geometry
import WindowSystem.Identity

namespace WindowSystem.Datum

/-! ## Numbers -/

/-- A number, or the name of one that has no digits. -/
def number? : Datum → Option Double
  | text "nan" => some Double.nan
  | text "inf" => some (Double.infinity false)
  | text "-inf" => some (Double.infinity true)
  | d => d.double?

/-- A number rounded to a single. -/
def single? (d : Datum) : Option Single := d.number?.map Double.toSingle

/-- Bytes as pairs of hexadecimal digits. -/
def hexBytes? (s : String) : Option (List UInt8) :=
  go s.toList
where
  go : List Char → Option (List UInt8)
    | [] => some []
    | high :: low :: rest => do
      let byte := (← Json.hexDigit? high) * 16 + (← Json.hexDigit? low)
      pure (UInt8.ofNat byte :: (← go rest))
    | [_] => none

/-! ## Small values -/

/-- Null, or what `f` reads. -/
def orNull? {α : Type} (f : Datum → Option α) (d : Datum) : Option (Option α) :=
  if d.isNull then some none else (f d).map some

/-- A list of two items that `f` reads. -/
def pair? {α : Type} (f : Datum → Option α) : Datum → Option (α × α)
  | list [a, b] => do pure (← f a, ← f b)
  | _ => none

/-- A point as a list of its coordinates. -/
def point? (d : Datum) : Option Point := (pair? number? d).map fun (x, y) => ⟨x, y⟩

/-- A value of a vocabulary by its label. -/
def labelled? {α : Type} [Vocabulary α] (d : Datum) : Option α := d.text?.bind Vocabulary.ofLabel?

/-- A window identifier by its number. -/
def windowId? (d : Datum) : Option WindowId := d.uint64?.map WindowId.mk

/-- A device by its number. -/
def device? (d : Datum) : Option DeviceId := d.uint32?.map DeviceId.mk

/-! ## Sizes and positions -/

/-- A size as a record. -/
def ofSize (s : Size) : Datum :=
  record [("width", nat s.width.toNat), ("height", nat s.height.toNat)]

/-- A position as a record. -/
def ofPosition (p : Position) : Datum :=
  record [("x", int p.x.toInt), ("y", int p.y.toInt)]

/-- The fields of a record, or a list of two values as the fields with two names. -/
def twoFields? (first second : String) : Datum → Option (List (String × Datum))
  | record fields => some fields
  | list [a, b] => some [(first, a), (second, b)]
  | _ => none

/-- A size, from a record or from a list of its components. -/
def size? (d : Datum) : Option Size := do
  let fields ← d.twoFields? "width" "height"
  pure ⟨← required? uint32? fields "width", ← required? uint32? fields "height"⟩

/-- A position, from a record or from a list of its components. -/
def position? (d : Datum) : Option Position := do
  let fields ← d.twoFields? "x" "y"
  pure ⟨← required? int32? fields "x", ← required? int32? fields "y"⟩

/-- A point, from a record or from a list of its components. -/
def pointRecord? (d : Datum) : Option Point := do
  let fields ← d.twoFields? "x" "y"
  pure ⟨← required? double? fields "x", ← required? double? fields "y"⟩

end WindowSystem.Datum
