/-
# Changes of a window

The mutations that a script can ask of a live window, each with the name of the script operation
that asks for it.
-/
import WindowSystem.Appearance
import WindowSystem.Geometry
import WindowSystem.Pointer

namespace WindowSystem

/-- One mutation of a live window. An absent size or theme clears the setting. -/
inductive WindowChange where
  | title (text : String)
  | visible (isVisible : Bool)
  | resizable (isResizable : Bool)
  | minimized (isMinimized : Bool)
  | maximized (isMaximized : Bool)
  | fullscreen (isFullscreen : Bool)
  | decorated (isDecorated : Bool)
  | level (stackLevel : StackLevel)
  | theme (chosen : Option Theme)
  | innerSize (size : Size)
  | minInnerSize (limit : Option Size)
  | maxInnerSize (limit : Option Size)
  | outerPosition (position : Position)
  | resizeIncrements (increments : Option Size)
  | contentProtected (isProtected : Bool)
  | enabledButtons (buttons : TitleButtons)
  | cursorIcon (icon : CursorIcon)
  | cursorGrab (mode : CursorGrab)
  | cursorVisible (isVisible : Bool)
  | cursorPosition (position : Point)
  | imeAllowed (isAllowed : Bool)
  | focus
  | requestRedraw
  deriving DecidableEq, Repr

/-- The script operation that asks for a change. -/
def WindowChange.operation : WindowChange → String
  | .title _ => "setTitle"
  | .visible _ => "setVisible"
  | .resizable _ => "setResizable"
  | .minimized _ => "setMinimized"
  | .maximized _ => "setMaximized"
  | .fullscreen _ => "setFullscreen"
  | .decorated _ => "setDecorated"
  | .level _ => "setWindowLevel"
  | .theme _ => "setTheme"
  | .innerSize _ => "setInnerSize"
  | .minInnerSize _ => "setMinInnerSize"
  | .maxInnerSize _ => "setMaxInnerSize"
  | .outerPosition _ => "setOuterPosition"
  | .resizeIncrements _ => "setResizeIncrements"
  | .contentProtected _ => "setContentProtected"
  | .enabledButtons _ => "setEnabledButtons"
  | .cursorIcon _ => "setCursorIcon"
  | .cursorGrab _ => "setCursorGrab"
  | .cursorVisible _ => "setCursorVisible"
  | .cursorPosition _ => "setCursorPosition"
  | .imeAllowed _ => "setImeAllowed"
  | .focus => "focusWindow"
  | .requestRedraw => "requestRedraw"

end WindowSystem
