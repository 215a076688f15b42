/-
# Display inputs as they are described

Reading inputs to the display, and changes of what the display is like, from records, as a host
does that plays them.
-/
import WindowSystem.Desktop.Input
import WindowSystem.Event.Description

namespace WindowSystem.Desktop

open Datum (required? optional? number? single? pair?)

/-- The modifiers of a bit set: shift, control, alt, super and the locks. -/
def InputModifiers.ofBits (word : UInt32) : InputModifiers :=
  ⟨word.toNat.testBit 0, word.toNat.testBit 1, word.toNat.testBit 2, word.toNat.testBit 3,
   word.toNat.testBit 4, word.toNat.testBit 5⟩

/-- Whether a key or button goes down. -/
def isDown? : Datum → Option Bool
  | .text "press" => some true
  | .text "release" => some false
  | _ => none

/-- A key by its name; one may be unknown to the display. -/
def key? : Datum → Option (Option Key)
  | .text "Unknown" => some none
  | .text name => (Key.ofName? name).map some
  | _ => none

/-- A character by its number. -/
def character? (d : Datum) : Option Char :=
  d.uint32?.bind fun n => if n.toNat.isValidChar then some (Char.ofNat n.toNat) else none

/-- An input from the fields of its description. -/
def Input.ofFields? (fields : List (String × Datum)) : Option Input := do
  let get {α : Type} (f : Datum → Option α) (key : String) : Option α := required? f fields key
  let int32s := get (pair? Datum.int32?) "value"
  let doubles := get (pair? number?) "value"
  let bool := get Datum.bool? "value"
  let modifiers := (Datum.defaulted? Datum.uint32? 0 fields "mods").map InputModifiers.ofBits
  match ← get Datum.text? "input" with
  | "pos" => int32s.map fun (x, y) => .position x y
  | "size" => int32s.map fun (width, height) => .size width height
  | "framebuffer" => int32s.map fun (width, height) => .framebuffer width height
  | "scale" => (get (pair? single?) "value").map fun (x, y) => .scale x y
  | "focus" => bool.map .focus
  | "iconify" => bool.map .iconify
  | "maximize" => bool.map .maximize
  | "enter" => bool.map .enter
  | "close" => pure .close
  | "refresh" => pure .refresh
  | "cursor" => doubles.map fun (x, y) => .cursor x y
  | "scroll" => doubles.map fun (x, y) => .scroll x y
  | "drop" => pure (.drop (← get (Datum.listOf? FilePath.ofDatum?) "value"))
  | "button" =>
    pure (.button (← get Datum.int32? "button").toInt (← get isDown? "action") (← modifiers))
  | "key" =>
    pure (.key (← get key? "key") (← get Datum.int32? "scancode") (← get isDown? "action")
      (← modifiers))
  | "char" => pure (.char (← get character? "value") (← modifiers))
  | _ => none

/-- The extents of a frame, from left and top to right and bottom. -/
def Frame.ofDatum? (d : Datum) : Option Frame := do
  match ← Datum.listOf? Datum.int32? d with
  | [left, top, right, bottom] => pure ⟨left, top, right, bottom⟩
  | _ => none

/-- A change of what the display is like; what is not described stays. -/
def Display.changeOf? (fields : List (String × Datum)) : Option (Display → Display) := do
  let refusesOpening ← optional? Datum.bool? fields "refuse_init"
  let refusals ← optional? (Datum.word? 64) fields "refuse"
  let frame ← optional? Frame.ofDatum? fields "frame"
  let presentsVulkan ← optional? Datum.bool? fields "vulkan"
  pure fun d =>
    { d with
      refusesOpening := refusesOpening.getD d.refusesOpening
      refusals := refusals.getD d.refusals
      frame := frame.getD d.frame
      presentsVulkan := presentsVulkan.getD d.presentsVulkan }

end WindowSystem.Desktop
