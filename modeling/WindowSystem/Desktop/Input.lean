/-
# Input to the display

What happens at the display: the user and the window system move, type and click. Each input
becomes reports about one window. The window keeps which keys and buttons are down and where the
cursor is, so that inputs that change nothing are not reported and a held key is reported as
repeated; when the focus is lost, all that is down goes up.
-/
import WindowSystem.Desktop.Display

namespace WindowSystem.Desktop

/-- An input to a window of the display. -/
inductive Input where
  | position (x y : Int32)
  | size (width height : Int32)
  | framebuffer (width height : Int32)
  | scale (x y : Single)
  | focus (isFocused : Bool)
  | iconify (isIconified : Bool)
  | maximize (isMaximized : Bool)
  | enter (isInside : Bool)
  | close
  | refresh
  | cursor (x y : Double)
  | scroll (x y : Double)
  | drop (paths : List FilePath)
  | button (index : Int) (isDown : Bool) (modifiers : InputModifiers)
  | key (key : Option Key) (scanCode : Int32) (isDown : Bool) (modifiers : InputModifiers)
  | char (character : Char) (modifiers : InputModifiers)
  deriving DecidableEq, Repr

namespace DisplayWindow

/-! ## Keys and buttons -/

/-- A key goes down or up. A release of a key that is up is not reported. -/
def strike (w : DisplayWindow) (struck : Option Key) (scanCode : Int32) (isDown : Bool)
    (modifiers : InputModifiers) : DisplayWindow × List Report :=
  match struck with
  | none => (w, [.key none scanCode (if isDown then .press else .release) modifiers])
  | some key =>
    match isDown, w.keysDown.contains key with
    | true, true => (w, [.key key scanCode .repeated modifiers])
    | true, false =>
      ({ w with keysDown := key :: w.keysDown }, [.key key scanCode .press modifiers])
    | false, true =>
      ({ w with keysDown := w.keysDown.filter (· ≠ key) }, [.key key scanCode .release modifiers])
    | false, false => (w, [])

/-- A mouse button goes down or up. There are eight buttons. -/
def click (w : DisplayWindow) (index : Int) (isDown : Bool) (modifiers : InputModifiers) :
    DisplayWindow × List Report :=
  if index < 0 ∨ 7 < index then (w, [])
  else
    let button := UInt16.ofNat index.toNat
    let others := w.buttonsDown.filter (· ≠ button)
    ({ w with buttonsDown := if isDown then button :: others else others },
     [.button button (if isDown then .press else .release) modifiers])

/-- The releases of all that is down: keys by their codes, then buttons. -/
def releases (w : DisplayWindow) : List Report :=
  let keys := ((List.range (Key.lastCode + 1)).map Key.mk).filter w.keysDown.contains
  let buttons := ((List.range 8).map UInt16.ofNat).filter w.buttonsDown.contains
  let nothing : InputModifiers := ⟨false, false, false, false, false, false⟩
  (keys.map fun key => .key key (-1) .release nothing) ++
    buttons.map fun button => .button button .release nothing

/-! ## Inputs -/

/-- Whether a character is a control character, which is no text input. -/
def isControl (c : Char) : Bool :=
  c.toNat < 32 || (126 < c.toNat && c.toNat < 160)

/-- What an input makes of a window, and what is reported of it. The locks are not reported. -/
def receive (w : DisplayWindow) : Input → DisplayWindow × List Report
  | .position x y => ({ w with position := ⟨x, y⟩ }, [.position x y])
  | .size width height => ({ w with width, height }, [.size width height])
  | .framebuffer width height => (w, [.framebuffer width height])
  | .scale x y => ({ w with scale := x }, [.scale x y])
  | .focus true => ({ w with focused := true }, [.focus true])
  | .focus false =>
    ({ w with focused := false, keysDown := [], buttonsDown := [] }, .focus false :: w.releases)
  | .iconify isIconified => ({ w with iconified := isIconified }, [.iconify isIconified])
  | .maximize isMaximized => ({ w with maximized := isMaximized }, [.maximize isMaximized])
  | .enter isInside => (w, [.enter isInside])
  | .close => (w, [.close])
  | .refresh => (w, [.refresh])
  | .cursor x y =>
    if w.cursor.x.sameNumber x && w.cursor.y.sameNumber y then (w, [])
    else ({ w with cursor := ⟨x, y⟩ }, [.cursor x y])
  | .scroll x y => (w, [.scroll x y])
  | .drop paths => (w, [.drop paths])
  | .button index isDown modifiers => w.click index isDown modifiers.unlocked
  | .key struck scanCode isDown modifiers => w.strike struck scanCode isDown modifiers.unlocked
  | .char character modifiers =>
    if isControl character then (w, [])
    else (w, [.charWithModifiers character modifiers.unlocked, .char character])

end DisplayWindow

namespace Display

/-- An input reaches a window, if it is there. -/
def receive (d : Display) (n : Nat) (input : Input) : Display :=
  match d.window? n with
  | none => d
  | some w =>
    let (received, reports) := w.receive input
    (d.updateWindow n fun _ => received).report n reports

end Display

end WindowSystem.Desktop
