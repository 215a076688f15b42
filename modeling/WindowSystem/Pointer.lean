/-
# The pointer

The shapes of the mouse cursor and the ways a window can hold it.
-/
import WindowSystem.Vocabulary

namespace WindowSystem

/-- How a window holds the cursor: not at all, inside its area, or in place. -/
inductive CursorGrab where
  | none | confined | locked
  deriving DecidableEq, Repr

instance : Vocabulary CursorGrab where
  all :=
    [.none, .confined, .locked]
  name
    | .none => "none"
    | .confined => "confined"
    | .locked => "locked"
  label
    | .none => "None"
    | .confined => "Confined"
    | .locked => "Locked"

/-- The standard shapes of the cursor. -/
inductive CursorIcon where
  | default | crosshair | hand | arrow | move | text | wait | help | progress | notAllowed
  | contextMenu | cell | verticalText | aliasing | copy | noDrop | grab | grabbing | allScroll
  | zoomIn | zoomOut | eResize | nResize | neResize | nwResize | sResize | seResize | swResize
  | wResize | ewResize | nsResize | neswResize | nwseResize | colResize | rowResize
  deriving DecidableEq, Repr

instance : Vocabulary CursorIcon where
  all :=
    [.default, .crosshair, .hand, .arrow, .move, .text, .wait, .help, .progress, .notAllowed,
     .contextMenu, .cell, .verticalText, .aliasing, .copy, .noDrop, .grab, .grabbing, .allScroll,
     .zoomIn, .zoomOut, .eResize, .nResize, .neResize, .nwResize, .sResize, .seResize,
     .swResize, .wResize, .ewResize, .nsResize, .neswResize, .nwseResize, .colResize,
     .rowResize]
  name
    | .default => "default"
    | .crosshair => "crosshair"
    | .hand => "hand"
    | .arrow => "arrow"
    | .move => "move"
    | .text => "text"
    | .wait => "wait"
    | .help => "help"
    | .progress => "progress"
    | .notAllowed => "not-allowed"
    | .contextMenu => "context-menu"
    | .cell => "cell"
    | .verticalText => "vertical-text"
    | .aliasing => "alias"
    | .copy => "copy"
    | .noDrop => "no-drop"
    | .grab => "grab"
    | .grabbing => "grabbing"
    | .allScroll => "all-scroll"
    | .zoomIn => "zoom-in"
    | .zoomOut => "zoom-out"
    | .eResize => "e-resize"
    | .nResize => "n-resize"
    | .neResize => "ne-resize"
    | .nwResize => "nw-resize"
    | .sResize => "s-resize"
    | .seResize => "se-resize"
    | .swResize => "sw-resize"
    | .wResize => "w-resize"
    | .ewResize => "ew-resize"
    | .nsResize => "ns-resize"
    | .neswResize => "nesw-resize"
    | .nwseResize => "nwse-resize"
    | .colResize => "col-resize"
    | .rowResize => "row-resize"
  label
    | .default => "Default"
    | .crosshair => "Crosshair"
    | .hand => "Hand"
    | .arrow => "Arrow"
    | .move => "Move"
    | .text => "Text"
    | .wait => "Wait"
    | .help => "Help"
    | .progress => "Progress"
    | .notAllowed => "NotAllowed"
    | .contextMenu => "ContextMenu"
    | .cell => "Cell"
    | .verticalText => "VerticalText"
    | .aliasing => "Alias"
    | .copy => "Copy"
    | .noDrop => "NoDrop"
    | .grab => "Grab"
    | .grabbing => "Grabbing"
    | .allScroll => "AllScroll"
    | .zoomIn => "ZoomIn"
    | .zoomOut => "ZoomOut"
    | .eResize => "EResize"
    | .nResize => "NResize"
    | .neResize => "NeResize"
    | .nwResize => "NwResize"
    | .sResize => "SResize"
    | .seResize => "SeResize"
    | .swResize => "SwResize"
    | .wResize => "WResize"
    | .ewResize => "EwResize"
    | .nsResize => "NsResize"
    | .neswResize => "NeswResize"
    | .nwseResize => "NwseResize"
    | .colResize => "ColResize"
    | .rowResize => "RowResize"

end WindowSystem
