import LabelTemplate.Field.Position
import LabelTemplate.Text.Quoted

/-!
# Edits on the command line

A field is addressed by its number in the list of fields. `N=VALUE` gives it a value
and `N=X,Y` moves it. The number and the coordinates are looked at twice: first for
their form, where any digit sign is let through and minus signs may stand before it,
and then as integers. So a text can have the right form and still be no number.
-/

namespace LabelTemplate.CommandLine

/-- The forms of an edit. -/
inductive EditForm where
  /-- A number and a value. -/
  | assignment
  /-- A number and two coordinates. -/
  | move
deriving DecidableEq, Repr

/-- How the user is told of a form. -/
def EditForm.shape : EditForm → String
  | .assignment => "序号=值"
  | .move => "序号=X,Y"

/-- Why an edit cannot be read. -/
inductive EditError where
  /-- The text has not the form of the edit. -/
  | malformed (form : EditForm) (given : Text)
  /-- A part that should be a number is none. -/
  | notNumber (part : Text) (cause : IntegerError)
deriving DecidableEq, Repr

/-- The wording of an error. -/
def EditError.message : EditError → String
  | .malformed form given => "格式应为 " ++ form.shape ++ ": " ++ String.ofList given
  | .notNumber part cause => cause.message part

/-- A field's new value. -/
structure Assignment where
  /-- The number of the field. -/
  number : Int
  /-- The value. -/
  value : Text
deriving DecidableEq, Repr

/-- A field's new position. -/
structure Move where
  /-- The number of the field. -/
  number : Int
  /-- The position. -/
  position : Position
deriving DecidableEq, Repr

/-- Reads a part of an edit as a number. -/
def readNumber (part : Text) : Except EditError Int :=
  (Integer.read part).mapError (.notNumber part)

/-- Reads an assignment. -/
def Assignment.read (t : Text) : Except EditError Assignment :=
  match Text.cut? ['='] t with
  | some (number, value) =>
    if number.trim.allDigitSigns then do
      pure { number := ← readNumber number, value := value }
    else .error (.malformed .assignment t)
  | none => .error (.malformed .assignment t)

/-- Has a part the form of a number: digit signs, after any minus signs? -/
def looksNumeric (part : Text) : Bool := Text.allDigitSigns (part.trim.dropWhile (· == '-'))

/-- Splits a text into the three parts of a move. -/
def splitMove? (t : Text) : Option (Text × Text × Text) := do
  let (number, coordinates) ← Text.cut? ['='] t
  let (x, y) ← Text.cut? [','] coordinates
  pure (number, x, y)

/-- Reads a move. -/
def Move.read (t : Text) : Except EditError Move :=
  match splitMove? t with
  | some (number, x, y) =>
    if looksNumeric number && looksNumeric x && looksNumeric y then do
      pure { number := ← readNumber number
             position := { x := ← readNumber x, y := ← readNumber y } }
    else .error (.malformed .move t)
  | none => .error (.malformed .move t)

end LabelTemplate.CommandLine
