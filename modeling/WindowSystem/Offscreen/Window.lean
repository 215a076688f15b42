/-
# Offscreen windows

A window that exists only as a record. Every change is stored; a change of a size limit moves the
opposite limit out of its way and the size between the limits.
-/
import WindowSystem.Creation.Attributes
import WindowSystem.Manager.Change
import WindowSystem.Manager.Query

namespace WindowSystem.Offscreen

/-- The state of an offscreen window. -/
structure Window where
  title : String
  innerSize : Size
  minInnerSize : Option Size
  maxInnerSize : Option Size
  resizeIncrements : Option Size
  /-- Outer position. -/
  position : Position
  scaleFactor : Double
  visible : Bool
  resizable : Bool
  minimized : Bool
  maximized : Bool
  fullscreen : Bool
  decorated : Bool
  transparent : Bool
  contentProtected : Bool
  imeAllowed : Bool
  level : StackLevel
  theme : Option Theme
  enabledButtons : TitleButtons
  cursorIcon : CursorIcon
  cursorGrab : CursorGrab
  cursorVisible : Bool
  cursorPosition : Point
  /-- Whether the drawable was handed out. -/
  drawableIssued : Bool
  deriving DecidableEq, Repr

/-! ## Size limits -/

/-- A size brought up to the lower limit and then down to the upper one. -/
def limitSize (lower upper : Option Size) (size : Size) : Size :=
  let raised := match lower with
    | some limit => size.sup limit
    | none => size
  match upper with
  | some limit => raised.inf limit
  | none => raised

namespace Window

/-- A size within the limits of a window. -/
def clamp (w : Window) (size : Size) : Size := limitSize w.minInnerSize w.maxInnerSize size

/-- Sets the lower limit; an upper limit below it is moved up to it. -/
def setMinInnerSize (w : Window) (limit : Option Size) : Window :=
  let w' :=
    { w with
      minInnerSize := limit
      maxInnerSize :=
        match limit, w.maxInnerSize with
        | some lower, some upper => some (upper.sup lower)
        | _, upper => upper }
  { w' with innerSize := w'.clamp w.innerSize }

/-- Sets the upper limit; a lower limit above it is moved down to it. -/
def setMaxInnerSize (w : Window) (limit : Option Size) : Window :=
  let w' :=
    { w with
      maxInnerSize := limit
      minInnerSize :=
        match limit, w.minInnerSize with
        | some upper, some lower => some (lower.inf upper)
        | _, lower => lower }
  { w' with innerSize := w'.clamp w.innerSize }

/-! ## Creation and change -/

/-- The window that attributes describe, where absent ones take their defaults. -/
def ofAttributes (a : WindowAttributes) : Window where
  title := a.title.getD "Window"
  innerSize := limitSize a.minInnerSize a.maxInnerSize (a.innerSize.getD ⟨800, 600⟩)
  minInnerSize := a.minInnerSize
  maxInnerSize := a.maxInnerSize
  resizeIncrements := a.resizeIncrements
  position := a.position.getD Position.origin
  scaleFactor := Double.one
  visible := a.visible.getD true
  resizable := a.resizable.getD true
  minimized := false
  maximized := a.maximized.getD false
  fullscreen := a.fullscreen.getD false
  decorated := a.decorated.getD true
  transparent := a.transparent.getD false
  contentProtected := a.contentProtected.getD false
  imeAllowed := false
  level := a.level.getD .normal
  theme := a.theme
  enabledButtons := a.enabledButtons.getD TitleButtons.all
  cursorIcon := .default
  cursorGrab := .none
  cursorVisible := true
  cursorPosition := Point.origin
  drawableIssued := false

/-- Stores a change. Focus and redraw requests change nothing in the window. -/
def apply (w : Window) : WindowChange → Window
  | .title text => { w with title := text }
  | .visible isVisible => { w with visible := isVisible }
  | .resizable isResizable => { w with resizable := isResizable }
  | .minimized isMinimized => { w with minimized := isMinimized }
  | .maximized isMaximized => { w with maximized := isMaximized }
  | .fullscreen isFullscreen => { w with fullscreen := isFullscreen }
  | .decorated isDecorated => { w with decorated := isDecorated }
  | .level stackLevel => { w with level := stackLevel }
  | .theme chosen => { w with theme := chosen }
  | .innerSize size => { w with innerSize := w.clamp size }
  | .minInnerSize limit => w.setMinInnerSize limit
  | .maxInnerSize limit => w.setMaxInnerSize limit
  | .outerPosition position => { w with position := position }
  | .resizeIncrements increments => { w with resizeIncrements := increments }
  | .contentProtected isProtected => { w with contentProtected := isProtected }
  | .enabledButtons buttons => { w with enabledButtons := buttons }
  | .cursorIcon icon => { w with cursorIcon := icon }
  | .cursorGrab mode => { w with cursorGrab := mode }
  | .cursorVisible isVisible => { w with cursorVisible := isVisible }
  | .cursorPosition position => { w with cursorPosition := position }
  | .imeAllowed isAllowed => { w with imeAllowed := isAllowed }
  | .focus => w
  | .requestRedraw => w

/-! ## Queries -/

/-- The height of the title bar, which only decorated windows have that do not fill the screen. -/
def titleBar (w : Window) : UInt32 :=
  if w.decorated && !w.fullscreen then 30 else 0

/-- Answers a query. -/
def answer (w : Window) : (q : Query) → q.Answer
  | .scaleFactor => w.scaleFactor
  | .innerPosition => some ⟨w.position.x, clampSigned (w.position.y.toInt + w.titleBar.toNat)⟩
  | .outerPosition => some w.position
  | .innerSize => w.innerSize
  | .outerSize => ⟨w.innerSize.width, addSaturating w.innerSize.height w.titleBar⟩
  | .title => w.title
  | .isVisible => some w.visible
  | .isResizable => w.resizable
  | .isMinimized => w.minimized
  | .isMaximized => w.maximized
  | .isFullscreen => w.fullscreen
  | .isDecorated => w.decorated

end Window

end WindowSystem.Offscreen
