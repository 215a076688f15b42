/-
# The properties of an offscreen window

Most of what an offscreen window keeps is set on its own (`Property`): a deed writes at most one
property (`Deed.written?`) and leaves every other one as it is (`Property.read_undergo`). So a
property is what was written of it last, or what the window was created with
(`Life.read_window`). Sizes and their limits are not among the properties, since they move each
other.
-/
import WindowSystem.Proofs.Offscreen.Lives

namespace WindowSystem.Offscreen

/-- What is set on its own of a window. -/
inductive Property where
  | title | visible | resizable | minimized | maximized | fullscreen | decorated | level | theme
  | resizeIncrements | contentProtected | enabledButtons | outerPosition | cursorIcon | cursorGrab
  | cursorVisible | cursorPosition | imeAllowed | scaleFactor
  deriving DecidableEq, Repr

namespace Property

/-- The type of a property. -/
abbrev Value : Property → Type
  | title => String
  | visible | resizable | minimized | maximized | fullscreen | decorated => Bool
  | level => StackLevel
  | theme => Option Theme
  | resizeIncrements => Option Size
  | contentProtected => Bool
  | enabledButtons => TitleButtons
  | outerPosition => Position
  | cursorIcon => CursorIcon
  | cursorGrab => CursorGrab
  | cursorVisible => Bool
  | cursorPosition => Point
  | imeAllowed => Bool
  | scaleFactor => Double

/-- A property of a window. -/
def read (w : Window) : (p : Property) → p.Value
  | title => w.title
  | visible => w.visible
  | resizable => w.resizable
  | minimized => w.minimized
  | maximized => w.maximized
  | fullscreen => w.fullscreen
  | decorated => w.decorated
  | level => w.level
  | theme => w.theme
  | resizeIncrements => w.resizeIncrements
  | contentProtected => w.contentProtected
  | enabledButtons => w.enabledButtons
  | outerPosition => w.position
  | cursorIcon => w.cursorIcon
  | cursorGrab => w.cursorGrab
  | cursorVisible => w.cursorVisible
  | cursorPosition => w.cursorPosition
  | imeAllowed => w.imeAllowed
  | scaleFactor => w.scaleFactor

/-! ## Creation -/

/-- What attributes ask for, if they can ask for the property and do. -/
def requested? (a : WindowAttributes) : (p : Property) → Option p.Value
  | title => a.title
  | visible => a.visible
  | resizable => a.resizable
  | maximized => a.maximized
  | fullscreen => a.fullscreen
  | decorated => a.decorated
  | level => a.level
  | theme => a.theme.map some
  | resizeIncrements => a.resizeIncrements.map some
  | contentProtected => a.contentProtected
  | enabledButtons => a.enabledButtons
  | outerPosition => a.position
  | minimized | cursorIcon | cursorGrab | cursorVisible | cursorPosition | imeAllowed
  | scaleFactor => none

/-- What a window has of a property that nobody asked for. -/
def default : (p : Property) → p.Value
  | title => "Window"
  | visible | resizable | decorated | cursorVisible => true
  | minimized | maximized | fullscreen | contentProtected | imeAllowed => false
  | level => .normal
  | theme => none
  | resizeIncrements => none
  | enabledButtons => .all
  | outerPosition => .origin
  | cursorIcon => .default
  | cursorGrab => .none
  | cursorPosition => .origin
  | scaleFactor => .one

/-- The property of a window that was just created. -/
def initial (a : WindowAttributes) (p : Property) : p.Value := (p.requested? a).getD p.default

theorem read_ofAttributes (a : WindowAttributes) (p : Property) :
    p.read (Window.ofAttributes a) = p.initial a := by
  cases p with
  | theme =>
    show a.theme = (a.theme.map some).getD none
    cases a.theme <;> rfl
  | resizeIncrements =>
    show a.resizeIncrements = (a.resizeIncrements.map some).getD none
    cases a.resizeIncrements <;> rfl
  | _ => rfl

end Property

/-! ## Writing -/

/-- A value written of a property. -/
structure Write where
  property : Property
  value : property.Value

/-- What is written of one property. -/
def Write.of? (p : Property) (write : Write) : Option p.Value :=
  if h : write.property = p then some (h ▸ write.value) else none

/-- What a change writes. Changes of sizes and limits, of the focus and requests to redraw write no
property. -/
def writeOf? : WindowChange → Option Write
  | .title text => some ⟨.title, text⟩
  | .visible isVisible => some ⟨.visible, isVisible⟩
  | .resizable isResizable => some ⟨.resizable, isResizable⟩
  | .minimized isMinimized => some ⟨.minimized, isMinimized⟩
  | .maximized isMaximized => some ⟨.maximized, isMaximized⟩
  | .fullscreen isFullscreen => some ⟨.fullscreen, isFullscreen⟩
  | .decorated isDecorated => some ⟨.decorated, isDecorated⟩
  | .level stackLevel => some ⟨.level, stackLevel⟩
  | .theme chosen => some ⟨.theme, chosen⟩
  | .outerPosition position => some ⟨.outerPosition, position⟩
  | .resizeIncrements increments => some ⟨.resizeIncrements, increments⟩
  | .contentProtected isProtected => some ⟨.contentProtected, isProtected⟩
  | .enabledButtons buttons => some ⟨.enabledButtons, buttons⟩
  | .cursorIcon icon => some ⟨.cursorIcon, icon⟩
  | .cursorGrab mode => some ⟨.cursorGrab, mode⟩
  | .cursorVisible isVisible => some ⟨.cursorVisible, isVisible⟩
  | .cursorPosition position => some ⟨.cursorPosition, position⟩
  | .imeAllowed isAllowed => some ⟨.imeAllowed, isAllowed⟩
  | .innerSize _ | .minInnerSize _ | .maxInnerSize _ | .focus | .requestRedraw => none

namespace Deed

/-- What a deed writes. -/
def write? : Deed → Option Write
  | .change asked => writeOf? asked
  | .draw => none
  | .rescale factor => some ⟨.scaleFactor, factor⟩

/-- What a deed writes of one property. -/
def written? (p : Property) (deed : Deed) : Option p.Value := deed.write?.bind (Write.of? p)

end Deed

namespace Property

/-- A deed changes a property exactly by writing it, so the others stay as they are. -/
theorem read_undergo (p : Property) (w : Window) (deed : Deed) :
    p.read (w.undergo deed) = (deed.written? p).getD (p.read w) := by
  cases deed with
  | change asked => cases asked <;> cases p <;> rfl
  | draw => cases p <;> rfl
  | rescale factor => cases p <;> rfl

/-- After some deeds a property is what was written of it last. -/
theorem read_foldl_undergo (p : Property) (w : Window) (deeds : List Deed) :
    p.read (deeds.foldl Window.undergo w) =
      (deeds.filterMap (Deed.written? p)).getLast?.getD (p.read w) := by
  induction deeds generalizing w with
  | nil => rfl
  | cons deed later ih =>
    rw [List.foldl_cons, ih, read_undergo]
    cases hwritten : deed.written? p with
    | none => rw [List.filterMap_cons_none hwritten, Option.getD_none]
    | some value =>
      rw [List.filterMap_cons_some hwritten, List.getLast?_cons, Option.getD_some, Option.getD_some]

end Property

/-- A property of a window is what was written of it last in its life, or what it was created
with. -/
theorem Life.read_window (life : Life) (p : Property) :
    p.read life.window =
      (life.deeds.filterMap (Deed.written? p)).getLast?.getD (p.initial life.attributes) := by
  rw [Life.window, p.read_foldl_undergo, p.read_ofAttributes]

/-! ## Queries -/

/-- The property that a query asks for, and how its answer tells it. Sizes and the position of the
client area are no properties. -/
def Property.asked? : (q : Query) → Option ((p : Property) × (p.Value → q.Answer))
  | .scaleFactor => some ⟨.scaleFactor, id⟩
  | .outerPosition => some ⟨.outerPosition, some⟩
  | .title => some ⟨.title, id⟩
  | .isVisible => some ⟨.visible, some⟩
  | .isResizable => some ⟨.resizable, id⟩
  | .isMinimized => some ⟨.minimized, id⟩
  | .isMaximized => some ⟨.maximized, id⟩
  | .isFullscreen => some ⟨.fullscreen, id⟩
  | .isDecorated => some ⟨.decorated, id⟩
  | .innerPosition | .innerSize | .outerSize => none

end WindowSystem.Offscreen
