/-
# Reports of a display

What a display reports about a window, each report with the time at which it was made, and the
events that a report stands for. Reports that scripts are not told about are only logged.
-/
import WindowSystem.Desktop.Key
import WindowSystem.Event.Basic
import WindowSystem.Journal
import WindowSystem.Text.Quoted

namespace WindowSystem.Desktop

/-- What a key or button did. -/
inductive Action where
  | press | release | repeated
  deriving DecidableEq, Repr

/-- The modifiers that are held during an input, with the locks that are on. -/
structure InputModifiers where
  shift : Bool
  control : Bool
  alt : Bool
  logo : Bool
  capsLock : Bool := false
  numLock : Bool := false
  deriving DecidableEq, Repr

/-- The modifiers that scripts are told of: the locks are none of them. -/
def InputModifiers.told (m : InputModifiers) : Modifiers := ⟨m.shift, m.control, m.alt, m.logo⟩

/-- The same modifiers with the locks off. -/
def InputModifiers.unlocked (m : InputModifiers) : InputModifiers :=
  { m with capsLock := false, numLock := false }

/-- A report of a display about one of its windows. Input reports come with the modifiers held
then; a key may be unknown to the display. -/
inductive Report where
  | close
  | refresh
  | position (x y : Int32)
  | size (width height : Int32)
  | framebuffer (width height : Int32)
  | scale (x y : Single)
  | focus (isFocused : Bool)
  | iconify (isIconified : Bool)
  | maximize (isMaximized : Bool)
  | enter (isInside : Bool)
  | cursor (x y : Double)
  | scroll (x y : Double)
  | button (index : UInt16) (action : Action) (modifiers : InputModifiers)
  | key (key : Option Key) (scanCode : Int32) (action : Action) (modifiers : InputModifiers)
  | char (character : Char)
  | charWithModifiers (character : Char) (modifiers : InputModifiers)
  | drop (paths : List FilePath)
  deriving DecidableEq, Repr

/-- A report with the time at which it was made, in seconds. -/
structure StampedReport where
  time : Double
  report : Report
  deriving DecidableEq, Repr

/-! ## Parts of events -/

/-- The display has one keyboard and one pointer. -/
def coreDevice : DeviceId := ⟨0⟩

/-- A repeated key counts as pressed. -/
def Action.buttonState : Action → ButtonState
  | .press => .pressed
  | .repeated => .pressed
  | .release => .released

/-- The button with an index. -/
def mouseButton (index : UInt16) : MouseButton :=
  if index = 0 then .left
  else if index = 1 then .right
  else if index = 2 then .middle
  else .other index

/-- The description of a set of modifiers. -/
def InputModifiers.label (m : InputModifiers) : String :=
  let names :=
    (if m.shift then ["Shift"] else []) ++ (if m.control then ["Control"] else []) ++
      (if m.alt then ["Alt"] else []) ++ (if m.logo then ["Super"] else []) ++
      (if m.capsLock then ["CapsLock"] else []) ++ (if m.numLock then ["NumLock"] else [])
  if names.isEmpty then "(empty)" else " | ".intercalate names

/-! ## Events of a report -/

namespace Report

/-- The modifiers that a report says are held, if it says so in a way that scripts are told. -/
def modifiers? : Report → Option InputModifiers
  | .button _ _ modifiers => some modifiers
  | .key _ _ _ modifiers => some modifiers
  | _ => none

/-- The events of a report, leaving changes of modifiers aside. -/
def windowEvents : Report → List WindowEvent
  | .close => [.closeRequested]
  | .refresh => [.redrawRequested]
  | .position x y => [.moved ⟨x, y⟩]
  | .size width height => [.resized ⟨clampUnsigned width, clampUnsigned height⟩]
  | .framebuffer .. => []
  | .scale x _ => [.scaleFactorChanged x.toDouble]
  | .focus isFocused => [.focused isFocused]
  | .iconify isIconified => [.occluded isIconified]
  | .maximize _ => []
  | .enter true => [.cursorEntered coreDevice]
  | .enter false => [.cursorLeft coreDevice]
  | .cursor x y => [.cursorMoved coreDevice ⟨x, y⟩]
  | .scroll x y => [.mouseWheel coreDevice (.lines x.toSingle y.toSingle) .moved]
  | .button index action _ => [.mouseButton coreDevice (mouseButton index) action.buttonState]
  | .key struck scanCode action _ =>
    [.keyInput coreDevice (clampUnsigned scanCode) (struck.bind Key.keyCode) action.buttonState
      false]
  | .char character => [.charInput character.val]
  | .charWithModifiers .. => []
  | .drop paths => paths.map .droppedFile

/-- The description of a report that scripts are not told about. -/
def ignoredLabel? : Report → Option String
  | .framebuffer width height =>
    some ("FramebufferSize(" ++ integerText width.toInt ++ ", " ++ integerText height.toInt ++ ")")
  | .maximize isMaximized =>
    some ("Maximize(" ++ (if isMaximized then "true" else "false") ++ ")")
  | .charWithModifiers character modifiers =>
    some ("CharModifiers(" ++ Text.quotedChar character ++ ", " ++ modifiers.label ++ ")")
  | _ => none

/-- The change of modifiers that a report brings after the ones last known. -/
def modifierChange (known : Modifiers) (r : Report) : List WindowEvent :=
  match r.modifiers? with
  | some held => if held.told = known then [] else [.modifiersChanged held.told]
  | none => []

/-- The events of a report about a window. The state is the modifiers last known. -/
def translate (id : WindowId) (r : Report) : Step Note Modifiers (List RawEvent) := do
  let known ← Step.get
  Step.modify fun known => (r.modifiers?.map InputModifiers.told).getD known
  match r.ignoredLabel? with
  | some label => Note.say .trace ("ignoring GLFW event " ++ label)
  | none => pure ()
  pure ((r.modifierChange known ++ r.windowEvents).map (.window id ·))

end Report

end WindowSystem.Desktop
