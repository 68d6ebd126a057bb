import LabelTemplate.Numeral.Integer

/-!
# Positions

A position is a point of the label, in printer dots from the upper left corner.
It is written as its two coordinates with a comma between them.
-/

namespace LabelTemplate

/-- A point of the label, in printer dots. -/
structure Position where
  /-- Dots to the right. -/
  x : Int
  /-- Dots down. -/
  y : Int
deriving DecidableEq, Repr

namespace Position

/-- Reads a position from the texts of its coordinates. -/
def read? (x y : Text) : Option Position := do
  let x ← Integer.read? x
  let y ← Integer.read? y
  pure { x := x, y := y }

/-- The written form of a position. -/
def text (p : Position) : Text := Text.ofInt p.x ++ ',' :: Text.ofInt p.y

end Position

end LabelTemplate
