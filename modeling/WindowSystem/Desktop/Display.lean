/-
# The display

A display without a screen. It carries out every request at once by setting the property that was
asked for, and notes the request; it never answers a request with a report. Requests that would
change nothing, or that do not apply to the window as it is, are not passed on to it.
-/
import WindowSystem.Desktop.Report

namespace WindowSystem.Desktop

/-- How far the frame of a decorated window reaches beyond its client area. -/
structure Frame where
  left : Int32
  top : Int32
  right : Int32
  bottom : Int32
  deriving DecidableEq, Repr

/-- A window of the display. -/
structure DisplayWindow where
  position : Position
  width : Int32
  height : Int32
  scale : Single
  visible : Bool
  iconified : Bool
  maximized : Bool
  focused : Bool
  resizable : Bool
  decorated : Bool
  floating : Bool
  focusOnShow : Bool
  cursorMode : CursorMode
  /-- Where the cursor is as far as the window knows. -/
  cursor : Point
  keysDown : List Key
  buttonsDown : List UInt16
  /-- What was reported about the window and not taken yet, oldest first. -/
  reports : List StampedReport

/-- The state of the display. Windows are numbered from one in the order of their creation. -/
structure Display where
  windows : List (Nat × DisplayWindow) := []
  /-- How many windows were created. -/
  created : Nat := 0
  frame : Frame := ⟨4, 24, 6, 8⟩
  /-- Whether the display refuses to be opened. -/
  refusesOpening : Bool := false
  /-- How many of the next windows it refuses. -/
  refusals : Nat := 0
  /-- Whether it can present Vulkan surfaces. -/
  presentsVulkan : Bool := false
  /-- What was found when this was first asked. -/
  presentsVulkanSeen : Option Bool := none
  /-- Its clock, in milliseconds. -/
  time : Nat := 0

namespace DisplayWindow

/-- The window that hints describe. -/
def ofHints (h : CreationHints) : DisplayWindow where
  position := Position.origin
  width := Int32.ofInt h.width.toNat
  height := Int32.ofInt h.height.toNat
  scale := Double.one.toSingle
  visible := h.visible
  iconified := false
  maximized := h.maximized
  focused := false
  resizable := h.resizable
  decorated := h.decorated
  floating := h.floating
  focusOnShow := h.focusOnShow
  cursorMode := .normal
  cursor := Point.origin
  keysDown := []
  buttonsDown := []
  reports := []

end DisplayWindow

namespace Display

/-! ## Windows -/

/-- The window with a number. -/
def window? (d : Display) (n : Nat) : Option DisplayWindow :=
  (d.windows.find? fun entry => entry.1 = n).map Prod.snd

/-- Changes the window with a number. -/
def updateWindow (d : Display) (n : Nat) (f : DisplayWindow → DisplayWindow) : Display :=
  { d with windows := d.windows.map fun entry => if entry.1 = n then (n, f entry.2) else entry }

/-- The frame of a window; there is none without decorations. -/
def frameOf (d : Display) (w : DisplayWindow) : Frame :=
  if w.decorated then d.frame else ⟨0, 0, 0, 0⟩

/-! ## Requests -/

/-- Notes a request. -/
def request (n : Nat) (r : WindowRequest) : Step Note Display Unit :=
  Step.write (.display ⟨n, r⟩)

/-- Passes a request on and sets the property that it asks for. -/
def carryOut (n : Nat) (r : WindowRequest) (f : DisplayWindow → DisplayWindow) :
    Step Note Display Unit := do
  request n r
  Step.modify fun d => d.updateWindow n f

/-- Does something about a window that is there. -/
def withWindow (n : Nat) (f : DisplayWindow → Step Note Display Unit) : Step Note Display Unit := do
  match (← Step.get).window? n with
  | some w => f w
  | none => pure ()

/-- Creates a window, unless the display refuses. -/
def create (hints : CreationHints) (title : String) : Step Note Display (Option Nat) := do
  let d ← Step.get
  let n := d.created + 1
  request n (.create hints title)
  match d.refusals with
  | refusals + 1 =>
    Step.modify fun d => { d with refusals := refusals }
    pure none
  | 0 =>
    Step.modify fun d =>
      { d with created := n, windows := d.windows ++ [(n, DisplayWindow.ofHints hints)] }
    pure (some n)

/-- Destroys a window; what was reported about it and not taken is lost. -/
def destroy (n : Nat) : Step Note Display Unit := do
  request n .destroy
  Step.modify fun d => { d with windows := d.windows.filter fun entry => entry.1 ≠ n }

def setTitle (n : Nat) (title : String) : Step Note Display Unit := request n (.title title)

def setPosition (n : Nat) (x y : Int32) : Step Note Display Unit :=
  carryOut n (.position x y) fun w => { w with position := ⟨x, y⟩ }

def setSize (n : Nat) (width height : Int32) : Step Note Display Unit :=
  carryOut n (.size width height) fun w => { w with width, height }

/-- A size limit as the display takes it, where `-1` is no limit. -/
def limit : Option UInt32 → Int32
  | some n => Int32.ofInt n.toNat
  | none => -1

/-- Sets the size limits of a window that can be resized. -/
def setLimits (n : Nat) (lower upper : Option Size) : Step Note Display Unit :=
  withWindow n fun w =>
    if w.resizable then
      request n (.limits (limit (lower.map Size.width)) (limit (lower.map Size.height))
        (limit (upper.map Size.width)) (limit (upper.map Size.height)))
    else pure ()

def iconify (n : Nat) : Step Note Display Unit :=
  carryOut n .iconify fun w => { w with iconified := true }

def maximize (n : Nat) : Step Note Display Unit :=
  carryOut n .maximize fun w => { w with maximized := true }

/-- Undoes iconification, or else maximization. -/
def restore (n : Nat) : Step Note Display Unit :=
  carryOut n .restore fun w =>
    if w.iconified then { w with iconified := false } else { w with maximized := false }

def focus (n : Nat) : Step Note Display Unit := request n .focus

/-- Shows a window, and asks for the focus if it was created so. -/
def showWindow (n : Nat) : Step Note Display Unit := do
  carryOut n .showWindow fun w => { w with visible := true }
  withWindow n fun w => if w.focusOnShow then focus n else pure ()

def hide (n : Nat) : Step Note Display Unit :=
  carryOut n .hide fun w => { w with visible := false }

def setResizable (n : Nat) (isResizable : Bool) : Step Note Display Unit :=
  withWindow n fun w =>
    if w.resizable = isResizable then pure ()
    else carryOut n (.resizable isResizable) fun w => { w with resizable := isResizable }

def setDecorated (n : Nat) (isDecorated : Bool) : Step Note Display Unit :=
  withWindow n fun w =>
    if w.decorated = isDecorated then pure ()
    else carryOut n (.decorated isDecorated) fun w => { w with decorated := isDecorated }

def setFloating (n : Nat) (isFloating : Bool) : Step Note Display Unit :=
  withWindow n fun w =>
    if w.floating = isFloating then pure ()
    else carryOut n (.floating isFloating) fun w => { w with floating := isFloating }

def setCursor (n : Nat) (shape : CursorShape) : Step Note Display Unit :=
  request n (.cursor shape)

/-- Changes the cursor mode, after which the window takes the cursor to be at the origin. -/
def setCursorMode (n : Nat) (mode : CursorMode) : Step Note Display Unit :=
  withWindow n fun w =>
    if w.cursorMode = mode then pure ()
    else
      carryOut n (.cursorMode mode) fun w => { w with cursorMode := mode, cursor := Point.origin }

/-- Moves the cursor in a window that has the focus. A disabled cursor moves only as far as the
window knows. -/
def setCursorPosition (n : Nat) (p : Point) : Step Note Display Unit :=
  withWindow n fun w =>
    if !w.focused then pure ()
    else if w.cursorMode = .disabled then
      Step.modify fun d => d.updateWindow n fun w => { w with cursor := p }
    else request n (.cursorPosition p.x p.y)

/-! ## Questions -/

/-- The extensions with which Vulkan surfaces are presented, if the display can. It is asked only
once. -/
def vulkanExtensions : Step Note Display (Option (List String)) := do
  let d ← Step.get
  let presents := d.presentsVulkanSeen.getD d.presentsVulkan
  Step.modify fun d => { d with presentsVulkanSeen := some presents }
  pure (if presents then some ["VK_KHR_surface", "VK_KHR_xlib_surface"] else none)

/-! ## Reports -/

/-- The time of the clock in seconds. The milliseconds are a double before they are divided, so
that neighbouring times far from zero can be the same. -/
def seconds (d : Display) : Double :=
  Double.ofQuotient (((Double.ofInt d.time).truncate.getD 0).toNat) 1000

/-- Puts reports about a window behind those not taken yet. -/
def report (n : Nat) (reports : List Report) (d : Display) : Display :=
  d.updateWindow n fun w => { w with reports := w.reports ++ reports.map (⟨d.seconds, ·⟩) }

/-- The reports about a window that were not taken yet. -/
def reportsOf (d : Display) (n : Nat) : List StampedReport :=
  ((d.window? n).map DisplayWindow.reports).getD []

/-- Takes the reports about some windows away. -/
def takeReports (d : Display) (ns : List Nat) : Display :=
  { d with
    windows := d.windows.map fun entry =>
      if ns.contains entry.1 then (entry.1, { entry.2 with reports := [] }) else entry }

end Display

end WindowSystem.Desktop
