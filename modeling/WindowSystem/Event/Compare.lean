/-
# Comparing events

Equality of events as a receiver sees it: numbers are compared as numbers, so zero equals its
negative and nothing equals a value that is not a number.
-/
import WindowSystem.Event.Basic

namespace WindowSystem

/-- Equality of points as numbers. -/
def Point.sameAs (a b : Point) : Bool := a.x.sameNumber b.x && a.y.sameNumber b.y

/-- Equality of scroll amounts as numbers. -/
def ScrollDelta.sameAs : ScrollDelta → ScrollDelta → Bool
  | .lines a b, .lines c d => a.sameNumber c && b.sameNumber d
  | .pixels a b, .pixels c d => a.sameNumber c && b.sameNumber d
  | _, _ => false

/-- Equality of optional numbers. -/
def sameOptionalNumber : Option Double → Option Double → Bool
  | none, none => true
  | some a, some b => a.sameNumber b
  | _, _ => false

/-- Equality of pressures as numbers. -/
def TouchForce.sameAs : TouchForce → TouchForce → Bool
  | .calibrated a b c, .calibrated d e f =>
    a.sameNumber d && b.sameNumber e && sameOptionalNumber c f
  | .normalized a, .normalized b => a.sameNumber b
  | _, _ => false

/-- Equality of window events with numbers compared as numbers. -/
def WindowEvent.sameAs : WindowEvent → WindowEvent → Bool
  | .scaleFactorChanged a, .scaleFactorChanged b => a.sameNumber b
  | .cursorMoved d a, .cursorMoved e b => d == e && a.sameAs b
  | .mouseWheel d a p, .mouseWheel e b q => d == e && a.sameAs b && p == q
  | .touchInput d a p f i, .touchInput e b q g j =>
    d == e && a.sameAs b && p == q && i == j &&
      (match f, g with
       | none, none => true
       | some f, some g => f.sameAs g
       | _, _ => false)
  | .touchpadPressure d a m, .touchpadPressure e b n => d == e && a.sameNumber b && m == n
  | .axisInput d i a, .axisInput e j b => d == e && i == j && a.sameNumber b
  | a, b => a == b

/-- Equality of device events with numbers compared as numbers. -/
def DeviceEvent.sameAs : DeviceEvent → DeviceEvent → Bool
  | .axis i a, .axis j b => i == j && a.sameNumber b
  | .scroll a, .scroll b => a.sameAs b
  | .mouseMotion a, .mouseMotion b => a.sameAs b
  | a, b => a == b

/-- Equality of events with numbers compared as numbers, so that an event that holds a value that
is not a number differs even from itself. -/
def Event.sameAs {W : Type} [BEq W] : Event W → Event W → Bool
  | .lifecycle a, .lifecycle b => a == b
  | .window v a, .window w b => v == w && a.sameAs b
  | .device d a, .device e b => d == e && a.sameAs b
  | _, _ => false

end WindowSystem
