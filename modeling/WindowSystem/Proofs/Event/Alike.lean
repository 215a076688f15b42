/-
# Events that differ in their numbers only

A relation of doubles is carried over to events: two events are related if they have the same shape,
their numbers are related pairwise and all else in them is equal. For the relation of being the same
number this gives equality of events as programs compare them, where zeros of either sign are equal
(`Event.sameAs_of_alike`). For equality of doubles it gives equality of the events themselves, as
long as their numbers are finite (`Event.eq_of_alike`).
-/
import WindowSystem.Event.Compare
import WindowSystem.Proofs.Number.Widening

namespace WindowSystem

/-! ## Events that JSON can write -/

/-- Whether both coordinates are finite. -/
def Point.isFinite (p : Point) : Bool := p.x.isFinite && p.y.isFinite

/-- Whether both amounts are finite. -/
def ScrollDelta.isFinite : ScrollDelta → Bool
  | .lines x y => x.isFinite && y.isFinite
  | .pixels x y => x.isFinite && y.isFinite

/-- Whether every number of a pressure is finite. -/
def TouchForce.isFinite : TouchForce → Bool
  | .calibrated value maxValue angle =>
    value.isFinite && maxValue.isFinite && angle.all Double.isFinite
  | .normalized value => value.isFinite

/-- Whether a path is text. -/
def FilePath.isText : FilePath → Bool
  | .text _ => true
  | .bytes _ => false

/-- Whether JSON can write a window event: its numbers are finite and its path is text. -/
def WindowEvent.isWritable : WindowEvent → Bool
  | .scaleFactorChanged factor => factor.isFinite
  | .cursorMoved _ position => position.isFinite
  | .mouseWheel _ delta _ => delta.isFinite
  | .droppedFile path => path.isText
  | .hoveredFile path => path.isText
  | .touchInput _ location _ force _ => location.isFinite && force.all TouchForce.isFinite
  | .touchpadPressure _ pressure _ => pressure.isFinite
  | .axisInput _ _ value => value.isFinite
  | _ => true

/-- Whether JSON can write a device event. -/
def DeviceEvent.isWritable : DeviceEvent → Bool
  | .axis _ value => value.isFinite
  | .scroll delta => delta.isFinite
  | .mouseMotion delta => delta.isFinite
  | _ => true

/-- Whether JSON can write an event. -/
def Event.isWritable {W : Type} : Event W → Bool
  | .lifecycle _ => true
  | .window _ event => event.isWritable
  | .device _ event => event.isWritable

/-! ## Numbers that are related -/

/-- Points whose coordinates are related. -/
inductive Point.Alike (R : Double → Double → Prop) : Point → Point → Prop
  | mk {a b c d : Double} (hx : R a c) (hy : R b d) : Point.Alike R ⟨a, b⟩ ⟨c, d⟩

/-- Scroll amounts of one unit whose numbers are related. -/
inductive ScrollDelta.Alike (R : Double → Double → Prop) : ScrollDelta → ScrollDelta → Prop
  | lines {a b c d : Single} (hx : R a.toDouble c.toDouble) (hy : R b.toDouble d.toDouble) :
    ScrollDelta.Alike R (.lines a b) (.lines c d)
  | pixels {a b c d : Double} (hx : R a c) (hy : R b d) :
    ScrollDelta.Alike R (.pixels a b) (.pixels c d)

/-- Pressures of one scale whose numbers are related. -/
inductive TouchForce.Alike (R : Double → Double → Prop) : TouchForce → TouchForce → Prop
  | calibrated {a b d e : Double} {c f : Option Double} (hvalue : R a d) (hmax : R b e)
    (hangle : Option.Rel R c f) : TouchForce.Alike R (.calibrated a b c) (.calibrated d e f)
  | normalized {a b : Double} (hvalue : R a b) :
    TouchForce.Alike R (.normalized a) (.normalized b)

/-- Window events whose numbers are related and that are equal in all else. -/
inductive WindowEvent.Alike (R : Double → Double → Prop) : WindowEvent → WindowEvent → Prop
  | scaleFactorChanged {a b : Double} (h : R a b) :
    WindowEvent.Alike R (.scaleFactorChanged a) (.scaleFactorChanged b)
  | cursorMoved {d : DeviceId} {a b : Point} (h : a.Alike R b) :
    WindowEvent.Alike R (.cursorMoved d a) (.cursorMoved d b)
  | mouseWheel {d : DeviceId} {p : TouchPhase} {a b : ScrollDelta} (h : a.Alike R b) :
    WindowEvent.Alike R (.mouseWheel d a p) (.mouseWheel d b p)
  | touchInput {d : DeviceId} {p : TouchPhase} {i : UInt64} {a b : Point}
    {f g : Option TouchForce} (hlocation : a.Alike R b)
    (hforce : Option.Rel (TouchForce.Alike R) f g) :
    WindowEvent.Alike R (.touchInput d a p f i) (.touchInput d b p g i)
  | touchpadPressure {d : DeviceId} {m : Int64} {a b : Single} (h : R a.toDouble b.toDouble) :
    WindowEvent.Alike R (.touchpadPressure d a m) (.touchpadPressure d b m)
  | axisInput {d : DeviceId} {i : UInt32} {a b : Double} (h : R a b) :
    WindowEvent.Alike R (.axisInput d i a) (.axisInput d i b)
  | itself {a : WindowEvent} (h : a.sameAs a = true) : WindowEvent.Alike R a a

/-- Device events whose numbers are related and that are equal in all else. -/
inductive DeviceEvent.Alike (R : Double → Double → Prop) : DeviceEvent → DeviceEvent → Prop
  | axis {i : UInt32} {a b : Double} (h : R a b) : DeviceEvent.Alike R (.axis i a) (.axis i b)
  | scroll {a b : ScrollDelta} (h : a.Alike R b) : DeviceEvent.Alike R (.scroll a) (.scroll b)
  | mouseMotion {a b : Point} (h : a.Alike R b) :
    DeviceEvent.Alike R (.mouseMotion a) (.mouseMotion b)
  | itself {a : DeviceEvent} (h : a.sameAs a = true) : DeviceEvent.Alike R a a

/-- Events whose numbers are related and that are equal in all else. -/
inductive Event.Alike {W : Type} (R : Double → Double → Prop) : Event W → Event W → Prop
  | lifecycle (a : LifecycleEvent) : Event.Alike R (.lifecycle a) (.lifecycle a)
  | window {w : W} {a b : WindowEvent} (h : a.Alike R b) :
    Event.Alike R (.window w a) (.window w b)
  | device {d : DeviceId} {a b : DeviceEvent} (h : a.Alike R b) :
    Event.Alike R (.device d a) (.device d b)

/-- Doubles that are the same number. -/
def Double.SameNumber (x y : Double) : Prop := x.sameNumber y = true

/-! ## Related by being the same number -/

section SameNumber

open Double (SameNumber)

theorem Point.sameAs_of_alike {a b : Point} (h : a.Alike SameNumber b) : a.sameAs b = true := by
  cases h with
  | mk hx hy => exact Bool.and_eq_true_iff.mpr ⟨hx, hy⟩

theorem ScrollDelta.sameAs_of_alike {a b : ScrollDelta} (h : a.Alike SameNumber b) :
    a.sameAs b = true := by
  cases h with
  | lines hx hy => exact Bool.and_eq_true_iff.mpr ⟨hx, hy⟩
  | pixels hx hy => exact Bool.and_eq_true_iff.mpr ⟨hx, hy⟩

theorem sameOptionalNumber_of_rel {v w : Option Double} (h : Option.Rel SameNumber v w) :
    sameOptionalNumber v w = true := by
  cases h with
  | none => rfl
  | some h => exact h

theorem TouchForce.sameAs_of_alike {a b : TouchForce} (h : a.Alike SameNumber b) :
    a.sameAs b = true := by
  cases h with
  | calibrated hvalue hmax hangle =>
    have hscale := Bool.and_eq_true_iff.mpr ⟨hvalue, hmax⟩
    exact Bool.and_eq_true_iff.mpr ⟨hscale, sameOptionalNumber_of_rel hangle⟩
  | normalized hvalue => exact hvalue

theorem WindowEvent.sameAs_of_alike {a b : WindowEvent} (h : a.Alike SameNumber b) :
    a.sameAs b = true := by
  cases h with
  | scaleFactorChanged h => exact h
  | cursorMoved h => simp [sameAs, Point.sameAs_of_alike h]
  | mouseWheel h => simp [sameAs, ScrollDelta.sameAs_of_alike h]
  | touchInput hlocation hforce =>
    cases hforce with
    | none => simp [sameAs, Point.sameAs_of_alike hlocation]
    | some hforce =>
      simp [sameAs, Point.sameAs_of_alike hlocation, TouchForce.sameAs_of_alike hforce]
  | touchpadPressure h =>
    have hnumber : Single.sameNumber _ _ = true := h
    simp [sameAs, hnumber]
  | axisInput h =>
    have hnumber : Double.sameNumber _ _ = true := h
    simp [sameAs, hnumber]
  | itself h => exact h

theorem DeviceEvent.sameAs_of_alike {a b : DeviceEvent} (h : a.Alike SameNumber b) :
    a.sameAs b = true := by
  cases h with
  | axis h =>
    have hnumber : Double.sameNumber _ _ = true := h
    simp [sameAs, hnumber]
  | scroll h => exact ScrollDelta.sameAs_of_alike h
  | mouseMotion h => exact Point.sameAs_of_alike h
  | itself h => exact h

theorem Event.sameAs_of_alike {a b : RawEvent} (h : a.Alike SameNumber b) : a.sameAs b = true := by
  cases h with
  | lifecycle => simp [sameAs]
  | window h => simp [sameAs, WindowEvent.sameAs_of_alike h]
  | device h => simp [sameAs, DeviceEvent.sameAs_of_alike h]

end SameNumber

/-! ## Related by equality -/

theorem Point.eq_of_alike {a b : Point} (h : a.Alike Eq b) : a = b := by
  cases h with
  | mk hx hy => rw [hx, hy]

theorem ScrollDelta.eq_of_alike {a b : ScrollDelta} (ha : a.isFinite = true)
    (hb : b.isFinite = true) (h : a.Alike Eq b) : a = b := by
  cases h with
  | lines hx hy =>
    -- lines are singles, which are compared as the doubles that they become
    have ha := Bool.and_eq_true_iff.mp ha
    have hb := Bool.and_eq_true_iff.mp hb
    rw [Single.toDouble_injective ha.1 hb.1 hx, Single.toDouble_injective ha.2 hb.2 hy]
  | pixels hx hy => rw [hx, hy]

theorem TouchForce.eq_of_alike {a b : TouchForce} (h : a.Alike Eq b) : a = b := by
  cases h with
  | calibrated hvalue hmax hangle =>
    rw [hvalue, hmax]
    cases hangle with
    | none => rfl
    | some hangle => rw [hangle]
  | normalized hvalue => rw [hvalue]

theorem WindowEvent.eq_of_alike {a b : WindowEvent} (ha : a.isWritable = true)
    (hb : b.isWritable = true) (h : a.Alike Eq b) : a = b := by
  cases h with
  | scaleFactorChanged h => rw [h]
  | cursorMoved h => rw [Point.eq_of_alike h]
  | mouseWheel h => rw [ScrollDelta.eq_of_alike ha hb h]
  | touchInput hlocation hforce =>
    rw [Point.eq_of_alike hlocation]
    cases hforce with
    | none => rfl
    | some hforce => rw [TouchForce.eq_of_alike hforce]
  | touchpadPressure h => rw [Single.toDouble_injective ha hb h]
  | axisInput h => rw [h]
  | itself => rfl

theorem DeviceEvent.eq_of_alike {a b : DeviceEvent} (ha : a.isWritable = true)
    (hb : b.isWritable = true) (h : a.Alike Eq b) : a = b := by
  cases h with
  | axis h => rw [h]
  | scroll h => rw [ScrollDelta.eq_of_alike ha hb h]
  | mouseMotion h => rw [Point.eq_of_alike h]
  | itself => rfl

theorem Event.eq_of_alike {W : Type} {a b : Event W} (ha : a.isWritable = true)
    (hb : b.isWritable = true) (h : a.Alike Eq b) : a = b := by
  cases h with
  | lifecycle => rfl
  | window h => rw [WindowEvent.eq_of_alike ha hb h]
  | device h => rw [DeviceEvent.eq_of_alike ha hb h]

end WindowSystem
