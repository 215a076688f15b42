/-
# Geometry

Sizes and positions in physical pixels, as they pass between scripts and the window managers.
-/
import WindowSystem.Number.Decimal

namespace WindowSystem

/-- A size in physical pixels. -/
structure Size where
  width : UInt32
  height : UInt32
  deriving DecidableEq, Repr, Inhabited

/-- A position on the desktop in physical pixels. -/
structure Position where
  x : Int32
  y : Int32
  deriving DecidableEq, Repr, Inhabited

/-- A point with fractional coordinates, such as the cursor's place in a window. -/
structure Point where
  x : Double
  y : Double
  deriving DecidableEq, Repr, Inhabited

namespace Size

/-- The smallest size that is at least `a` and at least `b` in both components. -/
def sup (a b : Size) : Size := ⟨max a.width b.width, max a.height b.height⟩

/-- The largest size that is at most `a` and at most `b` in both components. -/
def inf (a b : Size) : Size := ⟨min a.width b.width, min a.height b.height⟩

/-- The description of a size. -/
def label (s : Size) : String :=
  "PhysicalSize \x7b width: " ++ decimalText s.width.toNat ++ ", height: " ++
    decimalText s.height.toNat ++ " \x7d"

end Size

namespace Position

/-- The corner of the desktop. -/
def origin : Position := ⟨0, 0⟩

/-- The description of a position. -/
def label (p : Position) : String :=
  "PhysicalPosition \x7b x: " ++ integerText p.x.toInt ++ ", y: " ++
    integerText p.y.toInt ++ " \x7d"

end Position

namespace Point

/-- The corner of a window. -/
def origin : Point := ⟨Double.zero, Double.zero⟩

end Point

/-! ## Fixed-width arithmetic that stops at its bounds -/

/-- Sum of two words, the largest word where it would pass it. -/
def addSaturating (a b : UInt32) : UInt32 :=
  if a.toNat + b.toNat < UInt32.size then a + b else UInt32.ofNat (UInt32.size - 1)

/-- An integer as a signed word, the nearest one where it does not fit. -/
def clampSigned (n : Int) : Int32 :=
  if n < Int32.minValue.toInt then Int32.minValue
  else if Int32.maxValue.toInt < n then Int32.maxValue
  else Int32.ofInt n

/-- A signed word as an unsigned one, zero where it is negative. -/
def clampUnsigned (n : Int32) : UInt32 :=
  UInt32.ofNat n.toInt.toNat

end WindowSystem
