/-
# Keys

Layout-independent names of the keys of a keyboard.
-/
import WindowSystem.Vocabulary

namespace WindowSystem

/-- The keys a key event can name. -/
inductive KeyCode where
  | key1 | key2 | key3 | key4 | key5 | key6 | key7 | key8 | key9 | key0 | a | b | c | d | e | f
  | g | h | i | j | k | l | m | n | o | p | q | r | s | t | u | v | w | x | y | z | escape | f1
  | f2 | f3 | f4 | f5 | f6 | f7 | f8 | f9 | f10 | f11 | f12 | f13 | f14 | f15 | f16 | f17 | f18
  | f19 | f20 | f21 | f22 | f23 | f24 | snapshot | scroll | pause | insert | home | delete | endKey
  | pageDown | pageUp | left | up | right | down | back | returnKey | space | tab | capital
  | numlock | numpad0 | numpad1 | numpad2 | numpad3 | numpad4 | numpad5 | numpad6 | numpad7
  | numpad8 | numpad9 | numpadAdd | numpadDivide | numpadDecimal | numpadEnter | numpadEquals
  | numpadMultiply | numpadSubtract | apostrophe | backslash | comma | equals | grave | minus
  | period | semicolon | slash | lAlt | lBracket | lControl | lShift | lWin | rAlt | rBracket
  | rControl | rShift | rWin | apps | mute | volumeDown | volumeUp | playPause | mediaStop
  | nextTrack | prevTrack
  deriving DecidableEq, Repr

instance : Vocabulary KeyCode where
  all :=
    [.key1, .key2, .key3, .key4, .key5, .key6, .key7, .key8, .key9, .key0, .a, .b, .c, .d, .e,
     .f, .g, .h, .i, .j, .k, .l, .m, .n, .o, .p, .q, .r, .s, .t, .u, .v, .w, .x, .y, .z,
     .escape, .f1, .f2, .f3, .f4, .f5, .f6, .f7, .f8, .f9, .f10, .f11, .f12, .f13, .f14, .f15,
     .f16, .f17, .f18, .f19, .f20, .f21, .f22, .f23, .f24, .snapshot, .scroll, .pause, .insert,
     .home, .delete, .endKey, .pageDown, .pageUp, .left, .up, .right, .down, .back, .returnKey,
     .space, .tab, .capital, .numlock, .numpad0, .numpad1, .numpad2, .numpad3, .numpad4,
     .numpad5, .numpad6, .numpad7, .numpad8, .numpad9, .numpadAdd, .numpadDivide,
     .numpadDecimal, .numpadEnter, .numpadEquals, .numpadMultiply, .numpadSubtract,
     .apostrophe, .backslash, .comma, .equals, .grave, .minus, .period, .semicolon, .slash,
     .lAlt, .lBracket, .lControl, .lShift, .lWin, .rAlt, .rBracket, .rControl, .rShift, .rWin,
     .apps, .mute, .volumeDown, .volumeUp, .playPause, .mediaStop, .nextTrack, .prevTrack]
  name
    | .key1 => "1"
    | .key2 => "2"
    | .key3 => "3"
    | .key4 => "4"
    | .key5 => "5"
    | .key6 => "6"
    | .key7 => "7"
    | .key8 => "8"
    | .key9 => "9"
    | .key0 => "0"
    | .a => "a"
    | .b => "b"
    | .c => "c"
    | .d => "d"
    | .e => "e"
    | .f => "f"
    | .g => "g"
    | .h => "h"
    | .i => "i"
    | .j => "j"
    | .k => "k"
    | .l => "l"
    | .m => "m"
    | .n => "n"
    | .o => "o"
    | .p => "p"
    | .q => "q"
    | .r => "r"
    | .s => "s"
    | .t => "t"
    | .u => "u"
    | .v => "v"
    | .w => "w"
    | .x => "x"
    | .y => "y"
    | .z => "z"
    | .escape => "escape"
    | .f1 => "f1"
    | .f2 => "f2"
    | .f3 => "f3"
    | .f4 => "f4"
    | .f5 => "f5"
    | .f6 => "f6"
    | .f7 => "f7"
    | .f8 => "f8"
    | .f9 => "f9"
    | .f10 => "f10"
    | .f11 => "f11"
    | .f12 => "f12"
    | .f13 => "f13"
    | .f14 => "f14"
    | .f15 => "f15"
    | .f16 => "f16"
    | .f17 => "f17"
    | .f18 => "f18"
    | .f19 => "f19"
    | .f20 => "f20"
    | .f21 => "f21"
    | .f22 => "f22"
    | .f23 => "f23"
    | .f24 => "f24"
    | .snapshot => "snapshot"
    | .scroll => "scroll"
    | .pause => "pause"
    | .insert => "insert"
    | .home => "home"
    | .delete => "delete"
    | .endKey => "end"
    | .pageDown => "page-down"
    | .pageUp => "page-up"
    | .left => "left"
    | .up => "up"
    | .right => "right"
    | .down => "down"
    | .back => "back"
    | .returnKey => "return"
    | .space => "space"
    | .tab => "tab"
    | .capital => "capital"
    | .numlock => "numlock"
    | .numpad0 => "numpad-0"
    | .numpad1 => "numpad-1"
    | .numpad2 => "numpad-2"
    | .numpad3 => "numpad-3"
    | .numpad4 => "numpad-4"
    | .numpad5 => "numpad-5"
    | .numpad6 => "numpad-6"
    | .numpad7 => "numpad-7"
    | .numpad8 => "numpad-8"
    | .numpad9 => "numpad-9"
    | .numpadAdd => "numpad-add"
    | .numpadDivide => "numpad-divide"
    | .numpadDecimal => "numpad-decimal"
    | .numpadEnter => "numpad-enter"
    | .numpadEquals => "numpad-equals"
    | .numpadMultiply => "numpad-multiply"
    | .numpadSubtract => "numpad-subtract"
    | .apostrophe => "apostrophe"
    | .backslash => "backslash"
    | .comma => "comma"
    | .equals => "equals"
    | .grave => "grave"
    | .minus => "minus"
    | .period => "period"
    | .semicolon => "semicolon"
    | .slash => "slash"
    | .lAlt => "left-alt"
    | .lBracket => "left-bracket"
    | .lControl => "left-ctrl"
    | .lShift => "left-shift"
    | .lWin => "left-gui"
    | .rAlt => "right-alt"
    | .rBracket => "right-bracket"
    | .rControl => "right-ctrl"
    | .rShift => "right-shift"
    | .rWin => "right-gui"
    | .apps => "apps"
    | .mute => "mute"
    | .volumeDown => "volume-down"
    | .volumeUp => "volume-up"
    | .playPause => "play-pause"
    | .mediaStop => "media-stop"
    | .nextTrack => "next-track"
    | .prevTrack => "prev-track"
  label
    | .key1 => "Key1"
    | .key2 => "Key2"
    | .key3 => "Key3"
    | .key4 => "Key4"
    | .key5 => "Key5"
    | .key6 => "Key6"
    | .key7 => "Key7"
    | .key8 => "Key8"
    | .key9 => "Key9"
    | .key0 => "Key0"
    | .a => "A"
    | .b => "B"
    | .c => "C"
    | .d => "D"
    | .e => "E"
    | .f => "F"
    | .g => "G"
    | .h => "H"
    | .i => "I"
    | .j => "J"
    | .k => "K"
    | .l => "L"
    | .m => "M"
    | .n => "N"
    | .o => "O"
    | .p => "P"
    | .q => "Q"
    | .r => "R"
    | .s => "S"
    | .t => "T"
    | .u => "U"
    | .v => "V"
    | .w => "W"
    | .x => "X"
    | .y => "Y"
    | .z => "Z"
    | .escape => "Escape"
    | .f1 => "F1"
    | .f2 => "F2"
    | .f3 => "F3"
    | .f4 => "F4"
    | .f5 => "F5"
    | .f6 => "F6"
    | .f7 => "F7"
    | .f8 => "F8"
    | .f9 => "F9"
    | .f10 => "F10"
    | .f11 => "F11"
    | .f12 => "F12"
    | .f13 => "F13"
    | .f14 => "F14"
    | .f15 => "F15"
    | .f16 => "F16"
    | .f17 => "F17"
    | .f18 => "F18"
    | .f19 => "F19"
    | .f20 => "F20"
    | .f21 => "F21"
    | .f22 => "F22"
    | .f23 => "F23"
    | .f24 => "F24"
    | .snapshot => "Snapshot"
    | .scroll => "Scroll"
    | .pause => "Pause"
    | .insert => "Insert"
    | .home => "Home"
    | .delete => "Delete"
    | .endKey => "End"
    | .pageDown => "PageDown"
    | .pageUp => "PageUp"
    | .left => "Left"
    | .up => "Up"
    | .right => "Right"
    | .down => "Down"
    | .back => "Back"
    | .returnKey => "Return"
    | .space => "Space"
    | .tab => "Tab"
    | .capital => "Capital"
    | .numlock => "Numlock"
    | .numpad0 => "Numpad0"
    | .numpad1 => "Numpad1"
    | .numpad2 => "Numpad2"
    | .numpad3 => "Numpad3"
    | .numpad4 => "Numpad4"
    | .numpad5 => "Numpad5"
    | .numpad6 => "Numpad6"
    | .numpad7 => "Numpad7"
    | .numpad8 => "Numpad8"
    | .numpad9 => "Numpad9"
    | .numpadAdd => "NumpadAdd"
    | .numpadDivide => "NumpadDivide"
    | .numpadDecimal => "NumpadDecimal"
    | .numpadEnter => "NumpadEnter"
    | .numpadEquals => "NumpadEquals"
    | .numpadMultiply => "NumpadMultiply"
    | .numpadSubtract => "NumpadSubtract"
    | .apostrophe => "Apostrophe"
    | .backslash => "Backslash"
    | .comma => "Comma"
    | .equals => "Equals"
    | .grave => "Grave"
    | .minus => "Minus"
    | .period => "Period"
    | .semicolon => "Semicolon"
    | .slash => "Slash"
    | .lAlt => "LAlt"
    | .lBracket => "LBracket"
    | .lControl => "LControl"
    | .lShift => "LShift"
    | .lWin => "LWin"
    | .rAlt => "RAlt"
    | .rBracket => "RBracket"
    | .rControl => "RControl"
    | .rShift => "RShift"
    | .rWin => "RWin"
    | .apps => "Apps"
    | .mute => "Mute"
    | .volumeDown => "VolumeDown"
    | .volumeUp => "VolumeUp"
    | .playPause => "PlayPause"
    | .mediaStop => "MediaStop"
    | .nextTrack => "NextTrack"
    | .prevTrack => "PrevTrack"

end WindowSystem
