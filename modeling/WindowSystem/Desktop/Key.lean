/-
# The keys of a display

The keys that a display tells apart, each known by a code, with the key that an event names for
it. Some keys have no such name.
-/
import WindowSystem.Event.Key

namespace WindowSystem.Desktop

/-- A key of the keyboard, by its code. -/
structure Key where
  code : Nat
  deriving DecidableEq, Repr

namespace Key

/-- Every key with its name on the display and the key code of its events. -/
def table : List (Key × String × Option KeyCode) :=
  [(⟨32⟩, "Space", some .space), (⟨39⟩, "Apostrophe", some .apostrophe),
   (⟨44⟩, "Comma", some .comma), (⟨45⟩, "Minus", some .minus), (⟨46⟩, "Period", some .period),
   (⟨47⟩, "Slash", some .slash), (⟨48⟩, "Num0", some .key0), (⟨49⟩, "Num1", some .key1),
   (⟨50⟩, "Num2", some .key2), (⟨51⟩, "Num3", some .key3), (⟨52⟩, "Num4", some .key4),
   (⟨53⟩, "Num5", some .key5), (⟨54⟩, "Num6", some .key6), (⟨55⟩, "Num7", some .key7),
   (⟨56⟩, "Num8", some .key8), (⟨57⟩, "Num9", some .key9), (⟨59⟩, "Semicolon", some .semicolon),
   (⟨61⟩, "Equal", some .equals), (⟨65⟩, "A", some .a), (⟨66⟩, "B", some .b),
   (⟨67⟩, "C", some .c), (⟨68⟩, "D", some .d), (⟨69⟩, "E", some .e), (⟨70⟩, "F", some .f),
   (⟨71⟩, "G", some .g), (⟨72⟩, "H", some .h), (⟨73⟩, "I", some .i), (⟨74⟩, "J", some .j),
   (⟨75⟩, "K", some .k), (⟨76⟩, "L", some .l), (⟨77⟩, "M", some .m), (⟨78⟩, "N", some .n),
   (⟨79⟩, "O", some .o), (⟨80⟩, "P", some .p), (⟨81⟩, "Q", some .q), (⟨82⟩, "R", some .r),
   (⟨83⟩, "S", some .s), (⟨84⟩, "T", some .t), (⟨85⟩, "U", some .u), (⟨86⟩, "V", some .v),
   (⟨87⟩, "W", some .w), (⟨88⟩, "X", some .x), (⟨89⟩, "Y", some .y), (⟨90⟩, "Z", some .z),
   (⟨91⟩, "LeftBracket", some .lBracket), (⟨92⟩, "Backslash", some .backslash),
   (⟨93⟩, "RightBracket", some .rBracket), (⟨96⟩, "GraveAccent", some .grave),
   (⟨161⟩, "World1", none), (⟨162⟩, "World2", none), (⟨256⟩, "Escape", some .escape),
   (⟨257⟩, "Enter", some .returnKey), (⟨258⟩, "Tab", some .tab), (⟨259⟩, "Backspace", some .back),
   (⟨260⟩, "Insert", some .insert), (⟨261⟩, "Delete", some .delete),
   (⟨262⟩, "Right", some .right), (⟨263⟩, "Left", some .left), (⟨264⟩, "Down", some .down),
   (⟨265⟩, "Up", some .up), (⟨266⟩, "PageUp", some .pageUp), (⟨267⟩, "PageDown", some .pageDown),
   (⟨268⟩, "Home", some .home), (⟨269⟩, "End", some .endKey), (⟨280⟩, "CapsLock", some .capital),
   (⟨281⟩, "ScrollLock", some .scroll), (⟨282⟩, "NumLock", some .numlock),
   (⟨283⟩, "PrintScreen", some .snapshot), (⟨284⟩, "Pause", some .pause), (⟨290⟩, "F1", some .f1),
   (⟨291⟩, "F2", some .f2), (⟨292⟩, "F3", some .f3), (⟨293⟩, "F4", some .f4),
   (⟨294⟩, "F5", some .f5), (⟨295⟩, "F6", some .f6), (⟨296⟩, "F7", some .f7),
   (⟨297⟩, "F8", some .f8), (⟨298⟩, "F9", some .f9), (⟨299⟩, "F10", some .f10),
   (⟨300⟩, "F11", some .f11), (⟨301⟩, "F12", some .f12), (⟨302⟩, "F13", none),
   (⟨303⟩, "F14", none), (⟨304⟩, "F15", none), (⟨305⟩, "F16", none), (⟨306⟩, "F17", none),
   (⟨307⟩, "F18", none), (⟨308⟩, "F19", none), (⟨309⟩, "F20", none), (⟨310⟩, "F21", none),
   (⟨311⟩, "F22", none), (⟨312⟩, "F23", none), (⟨313⟩, "F24", none), (⟨314⟩, "F25", none),
   (⟨320⟩, "Kp0", some .numpad0), (⟨321⟩, "Kp1", some .numpad1), (⟨322⟩, "Kp2", some .numpad2),
   (⟨323⟩, "Kp3", some .numpad3), (⟨324⟩, "Kp4", some .numpad4), (⟨325⟩, "Kp5", some .numpad5),
   (⟨326⟩, "Kp6", some .numpad6), (⟨327⟩, "Kp7", some .numpad7), (⟨328⟩, "Kp8", some .numpad8),
   (⟨329⟩, "Kp9", some .numpad9), (⟨330⟩, "KpDecimal", some .numpadDecimal),
   (⟨331⟩, "KpDivide", some .numpadDivide), (⟨332⟩, "KpMultiply", some .numpadMultiply),
   (⟨333⟩, "KpSubtract", some .numpadSubtract), (⟨334⟩, "KpAdd", some .numpadAdd),
   (⟨335⟩, "KpEnter", some .numpadEnter), (⟨336⟩, "KpEqual", some .numpadEquals),
   (⟨340⟩, "LeftShift", some .lShift), (⟨341⟩, "LeftControl", some .lControl),
   (⟨342⟩, "LeftAlt", some .lAlt), (⟨343⟩, "LeftSuper", some .lWin),
   (⟨344⟩, "RightShift", some .rShift), (⟨345⟩, "RightControl", some .rControl),
   (⟨346⟩, "RightAlt", some .rAlt), (⟨347⟩, "RightSuper", some .rWin),
   (⟨348⟩, "Menu", some .apps)]

/-- The greatest code of a key. -/
def lastCode : Nat := 348

/-- The key with a name. -/
def ofName? (name : String) : Option Key :=
  (table.find? fun row => row.2.1 == name).map Prod.fst

/-- The key code of a key's events. -/
def keyCode (key : Key) : Option KeyCode :=
  (table.find? fun row => row.1 == key).bind fun row => row.2.2

end Key

end WindowSystem.Desktop
