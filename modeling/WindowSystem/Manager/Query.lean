/-
# Queries of a window

What can be asked about a live window, and the type of each answer.
-/
import WindowSystem.Geometry

namespace WindowSystem

/-- A question about a live window. -/
inductive Query where
  | scaleFactor | innerPosition | outerPosition | innerSize | outerSize | title
  | isVisible | isResizable | isMinimized | isMaximized | isFullscreen | isDecorated
  deriving DecidableEq, Repr

namespace Query

/-- The type of an answer. Positions and visibility are absent where a platform cannot tell. -/
abbrev Answer : Query → Type
  | .scaleFactor => Double
  | .innerPosition => Option Position
  | .outerPosition => Option Position
  | .innerSize => Size
  | .outerSize => Size
  | .title => String
  | .isVisible => Option Bool
  | .isResizable => Bool
  | .isMinimized => Bool
  | .isMaximized => Bool
  | .isFullscreen => Bool
  | .isDecorated => Bool

/-- The script operation that asks. -/
def operation : Query → String
  | .scaleFactor => "scaleFactor"
  | .innerPosition => "innerPosition"
  | .outerPosition => "outerPosition"
  | .innerSize => "innerSize"
  | .outerSize => "outerSize"
  | .title => "title"
  | .isVisible => "isVisible"
  | .isResizable => "isResizable"
  | .isMinimized => "isMinimized"
  | .isMaximized => "isMaximized"
  | .isFullscreen => "isFullscreen"
  | .isDecorated => "isDecorated"

end Query

end WindowSystem
