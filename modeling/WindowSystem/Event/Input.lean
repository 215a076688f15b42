/-
# Input values

The values that input events carry: devices, buttons, scrolling, touch and modifiers.
-/
import WindowSystem.Number.Double
import WindowSystem.Event.Key

namespace WindowSystem

/-! ## Devices and buttons -/

/-- The number a window manager gives an input device. -/
structure DeviceId where
  number : UInt32
  deriving DecidableEq, Repr, Inhabited

/-- Whether a key or button went down or up. -/
inductive ButtonState where
  | pressed | released
  deriving DecidableEq, Repr

instance : Vocabulary ButtonState where
  all :=
    [.pressed, .released]
  name
    | .pressed => "pressed"
    | .released => "released"
  label
    | .pressed => "Pressed"
    | .released => "Released"

/-- A mouse button: one of the usual three, or another one by its index. -/
inductive MouseButton where
  | left | right | middle
  | other (index : UInt16)
  deriving DecidableEq, Repr

/-! ## Scrolling and touch -/

/-- How far a wheel or touchpad scrolled, in lines or in exact pixels. -/
inductive ScrollDelta where
  | lines (x y : Single)
  | pixels (x y : Double)
  deriving DecidableEq, Repr

/-- Where in its course a gesture is. -/
inductive TouchPhase where
  | started | moved | ended | cancelled
  deriving DecidableEq, Repr

instance : Vocabulary TouchPhase where
  all :=
    [.started, .moved, .ended, .cancelled]
  name
    | .started => "started"
    | .moved => "moved"
    | .ended => "ended"
    | .cancelled => "cancelled"
  label
    | .started => "Started"
    | .moved => "Moved"
    | .ended => "Ended"
    | .cancelled => "Cancelled"

/-- The pressure of a touch, in the device's own scale or between zero and one. -/
inductive TouchForce where
  | calibrated (value maxValue : Double) (altitudeAngle : Option Double)
  | normalized (value : Double)
  deriving DecidableEq, Repr

/-! ## Modifiers -/

/-- The modifier keys held during an event. -/
structure Modifiers where
  shift : Bool
  control : Bool
  alt : Bool
  logo : Bool
  deriving DecidableEq, Repr, Inhabited

namespace Modifiers

/-- No modifier. -/
def empty : Modifiers := ⟨false, false, false, false⟩

/-- The number of a set of modifiers: every modifier has a bit of its own, three places apart. -/
def bits (m : Modifiers) : UInt32 :=
  (if m.shift then 0x4 else 0) + (if m.control then 0x20 else 0) +
    (if m.alt then 0x100 else 0) + (if m.logo then 0x800 else 0)

/-- The modifiers of a number; other bits are dropped. -/
def ofBits (word : UInt32) : Modifiers :=
  ⟨word.toNat.testBit 2, word.toNat.testBit 5, word.toNat.testBit 8, word.toNat.testBit 11⟩

end Modifiers

end WindowSystem
