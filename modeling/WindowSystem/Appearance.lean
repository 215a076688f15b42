/-
# Appearance

How a window is stacked, themed and decorated.
-/
import WindowSystem.Vocabulary

namespace WindowSystem

/-- Where a window is stacked among the others. -/
inductive StackLevel where
  | alwaysOnBottom | normal | alwaysOnTop
  deriving DecidableEq, Repr

instance : Vocabulary StackLevel where
  all :=
    [.alwaysOnBottom, .normal, .alwaysOnTop]
  name
    | .alwaysOnBottom => "always-on-bottom"
    | .normal => "normal"
    | .alwaysOnTop => "always-on-top"
  label
    | .alwaysOnBottom => "AlwaysOnBottom"
    | .normal => "Normal"
    | .alwaysOnTop => "AlwaysOnTop"

/-- The level that the older yes-or-no setting stands for. -/
def StackLevel.ofOnTop (onTop : Bool) : StackLevel :=
  if onTop then .alwaysOnTop else .normal

/-- Light or dark decorations. -/
inductive Theme where
  | light | dark
  deriving DecidableEq, Repr

instance : Vocabulary Theme where
  all :=
    [.light, .dark]
  name
    | .light => "light"
    | .dark => "dark"
  label
    | .light => "Light"
    | .dark => "Dark"

/-- The buttons that a title bar enables. -/
structure TitleButtons where
  close : Bool
  minimize : Bool
  maximize : Bool
  deriving DecidableEq, Repr

namespace TitleButtons

/-- Every button. -/
def all : TitleButtons := ⟨true, true, true⟩

/-- The buttons of a bit set; bits that stand for no button are dropped. -/
def ofBits (word : UInt32) : TitleButtons :=
  ⟨word.toNat.testBit 0, word.toNat.testBit 1, word.toNat.testBit 2⟩

/-- The bit set of the buttons. -/
def bits (b : TitleButtons) : UInt32 :=
  (if b.close then 1 else 0) + (if b.minimize then 2 else 0) + (if b.maximize then 4 else 0)

/-- The names of the enabled buttons, in the order of their bits. -/
def names (b : TitleButtons) : List String :=
  (if b.close then ["CLOSE"] else []) ++ (if b.minimize then ["MINIMIZE"] else []) ++
    (if b.maximize then ["MAXIMIZE"] else [])

/-- The description of a set: the names joined by bars, or the number zero when it is empty. -/
def label (b : TitleButtons) : String :=
  if b.names.isEmpty then "WindowButtons(0x0)"
  else "WindowButtons(" ++ " | ".intercalate b.names ++ ")"

end TitleButtons

/-- When events of raw devices are delivered: always, only while no window of ours has the focus,
or never. -/
inductive DeviceFilter where
  | always | unfocused | never
  deriving DecidableEq, Repr

instance : Vocabulary DeviceFilter where
  all :=
    [.always, .unfocused, .never]
  name
    | .always => "always"
    | .unfocused => "unfocused"
    | .never => "never"
  label
    | .always => "Always"
    | .unfocused => "Unfocused"
    | .never => "Never"

end WindowSystem
