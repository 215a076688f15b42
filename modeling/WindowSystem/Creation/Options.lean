/-
# Window options

The loosely typed record with which a script asks for a window. Every field may be absent;
sizes and positions are lists of numbers of any length. `orElse` lays one record over another.
-/
import WindowSystem.Appearance
import WindowSystem.Number.Double

namespace WindowSystem

/-- A script's window options. An absent field leaves the choice to the window manager. -/
structure WindowOptions where
  /-- Client area as width and height. -/
  innerSize : Option (List Double) := none
  /-- Least client area as width and height. -/
  minInnerSize : Option (List Double) := none
  /-- Greatest client area as width and height. -/
  maxInnerSize : Option (List Double) := none
  /-- Outer position. -/
  position : Option (List Double) := none
  /-- Resize step as width and height. -/
  resizeIncrements : Option (List Double) := none
  /-- Whether the user may resize the window. -/
  resizable : Option Bool := none
  /-- Enabled title bar buttons as a bit set. -/
  enabledButtons : Option UInt32 := none
  /-- Title bar text. -/
  title : Option String := none
  fullscreen : Option Bool := none
  maximized : Option Bool := none
  visible : Option Bool := none
  transparent : Option Bool := none
  decorated : Option Bool := none
  /-- The older way to ask for a stacking level; `level` wins over it. -/
  alwaysOnTop : Option Bool := none
  level : Option StackLevel := none
  theme : Option Theme := none
  /-- Whether the contents are hidden from screen capture. -/
  contentProtected : Option Bool := none
  /-- Whether the window takes the focus when it is created. -/
  active : Option Bool := none
  deriving DecidableEq, Repr, Inhabited

namespace WindowOptions

/-- Fills every absent field from a record of defaults, each field on its own. -/
def orElse (options defaults : WindowOptions) : WindowOptions where
  innerSize := options.innerSize.or defaults.innerSize
  minInnerSize := options.minInnerSize.or defaults.minInnerSize
  maxInnerSize := options.maxInnerSize.or defaults.maxInnerSize
  position := options.position.or defaults.position
  resizeIncrements := options.resizeIncrements.or defaults.resizeIncrements
  resizable := options.resizable.or defaults.resizable
  enabledButtons := options.enabledButtons.or defaults.enabledButtons
  title := options.title.or defaults.title
  fullscreen := options.fullscreen.or defaults.fullscreen
  maximized := options.maximized.or defaults.maximized
  visible := options.visible.or defaults.visible
  transparent := options.transparent.or defaults.transparent
  decorated := options.decorated.or defaults.decorated
  alwaysOnTop := options.alwaysOnTop.or defaults.alwaysOnTop
  level := options.level.or defaults.level
  theme := options.theme.or defaults.theme
  contentProtected := options.contentProtected.or defaults.contentProtected
  active := options.active.or defaults.active

/-- Nothing set over defaults gives the defaults. -/
theorem orElse_empty (defaults : WindowOptions) :
    ({} : WindowOptions).orElse defaults = defaults := by
  cases defaults; simp [orElse]

/-- Options over nothing stay as they are. -/
theorem empty_orElse (options : WindowOptions) : options.orElse {} = options := by
  cases options; simp [orElse]

/-- Layers may be merged in either grouping. -/
theorem orElse_assoc (a b c : WindowOptions) :
    (a.orElse b).orElse c = a.orElse (b.orElse c) := by
  simp [orElse, Option.or_assoc]

end WindowOptions

/-- Equality of optional lists, component by component as numbers. -/
def sameNumbers (a b : Option (List Double)) : Bool :=
  match a, b with
  | none, none => true
  | some xs, some ys => xs.length == ys.length && (xs.zip ys).all fun (x, y) => x.sameNumber y
  | _, _ => false

/-- Equality of options with lists compared as numbers, so that a record that holds a value that
is not a number differs even from itself. -/
def WindowOptions.sameAs (a b : WindowOptions) : Bool :=
  sameNumbers a.innerSize b.innerSize && sameNumbers a.minInnerSize b.minInnerSize &&
    sameNumbers a.maxInnerSize b.maxInnerSize && sameNumbers a.position b.position &&
    sameNumbers a.resizeIncrements b.resizeIncrements &&
    { a with innerSize := none, minInnerSize := none, maxInnerSize := none, position := none,
             resizeIncrements := none } ==
      { b with innerSize := none, minInnerSize := none, maxInnerSize := none, position := none,
               resizeIncrements := none }

end WindowSystem
