/-
# Window identifiers

The number by which a window manager knows a window. It is unique while the window lives.
-/
import WindowSystem.Number.Decimal

namespace WindowSystem

/-- The number a window manager gives a window. -/
structure WindowId where
  number : UInt64
  deriving DecidableEq, Repr, Inhabited

namespace WindowId

/-- The text of an identifier in messages, in hexadecimal. -/
def text (id : WindowId) : String := "0x" ++ hexText id.number.toNat

/-- The description of an identifier, in decimal. -/
def label (id : WindowId) : String := "WindowId(" ++ decimalText id.number.toNat ++ ")"

/-- Identifiers are ordered by number. -/
def le (a b : WindowId) : Bool := a.number ≤ b.number

end WindowId

end WindowSystem
