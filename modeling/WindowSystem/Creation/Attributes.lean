/-
# Window attributes

The checked form of window options, which is what a window manager receives. `attributes?`
refuses a record whose lists do not have two components, or whose components are not finite or
do not fit; the first offending field is the one reported.
-/
import WindowSystem.Creation.Options
import WindowSystem.Failure
import WindowSystem.Geometry

namespace WindowSystem

/-- What a window manager is told about a new window. -/
structure WindowAttributes where
  innerSize : Option Size := none
  minInnerSize : Option Size := none
  maxInnerSize : Option Size := none
  position : Option Position := none
  resizeIncrements : Option Size := none
  resizable : Option Bool := none
  enabledButtons : Option TitleButtons := none
  title : Option String := none
  fullscreen : Option Bool := none
  maximized : Option Bool := none
  visible : Option Bool := none
  transparent : Option Bool := none
  decorated : Option Bool := none
  level : Option StackLevel := none
  theme : Option Theme := none
  contentProtected : Option Bool := none
  active : Option Bool := none
  deriving DecidableEq, Repr, Inhabited

namespace WindowOptions

/-! ## Components -/

/-- The integer part of a component, if it lies between two bounds. -/
def component (field : String) (low high : Int) (index : Nat) (value : Double) :
    Except OptionsError Int :=
  match value.truncate with
  | some n => if low ≤ n ∧ n ≤ high then .ok n else .error (.outOfRange field index value)
  | none => .error (.outOfRange field index value)

/-- The two components of a list, checked from left to right. -/
def components (field : String) (low high : Int) (values : List Double) :
    Except OptionsError (Int × Int) :=
  match values with
  | [first, second] => do
    let a ← component field low high 0 first
    let b ← component field low high 1 second
    pure (a, b)
  | _ => .error (.arity field values.length)

/-- A list read as a size, whose components are unsigned words. -/
def sizeOf (field : String) : Option (List Double) → Except OptionsError (Option Size)
  | none => .ok none
  | some values => do
    let (width, height) ← components field 0 (UInt32.size - 1 : Nat) values
    pure (some ⟨UInt32.ofNat width.toNat, UInt32.ofNat height.toNat⟩)

/-- A list read as a position, whose components are signed words. -/
def positionOf (field : String) : Option (List Double) → Except OptionsError (Option Position)
  | none => .ok none
  | some values => do
    let (x, y) ← components field Int32.minValue.toInt Int32.maxValue.toInt values
    pure (some ⟨Int32.ofInt x, Int32.ofInt y⟩)

/-! ## The whole record -/

/-- The stacking level that options ask for, in either spelling. -/
def stackLevel (options : WindowOptions) : Option StackLevel :=
  options.level.or (options.alwaysOnTop.map StackLevel.ofOnTop)

/-- Checks options field by field, in the order of the record. -/
def attributes? (options : WindowOptions) : Except OptionsError WindowAttributes := do
  let innerSize ← sizeOf "innerSize" options.innerSize
  let minInnerSize ← sizeOf "minInnerSize" options.minInnerSize
  let maxInnerSize ← sizeOf "maxInnerSize" options.maxInnerSize
  let position ← positionOf "position" options.position
  let resizeIncrements ← sizeOf "resizeIncrements" options.resizeIncrements
  pure
    { innerSize, minInnerSize, maxInnerSize, position, resizeIncrements
      resizable := options.resizable
      enabledButtons := options.enabledButtons.map TitleButtons.ofBits
      title := options.title
      fullscreen := options.fullscreen
      maximized := options.maximized
      visible := options.visible
      transparent := options.transparent
      decorated := options.decorated
      level := options.stackLevel
      theme := options.theme
      contentProtected := options.contentProtected
      active := options.active }

end WindowOptions

end WindowSystem
