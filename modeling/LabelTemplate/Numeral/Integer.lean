import LabelTemplate.Text.Blank
import LabelTemplate.Text.Digit
import LabelTemplate.Text.Quoted

/-!
# Reading integers

Coordinates and field numbers are written by hand or by a layout program, in any
script. An integer is an optional sign and decimal digits of any script, with
single underscores allowed between them; white space around it is passed over,
except the information separators 1C to 1F.

The number of digits is bounded, so that a damaged template cannot ask for a number
of unlimited size. The bound is looked at before anything behind the digits.
-/

namespace LabelTemplate

/-- Why a text is no integer. -/
inductive IntegerError where
  /-- The text has not the form of an integer. -/
  | malformed
  /-- There are more digits than are read. -/
  | tooLong (digits : Nat)
deriving DecidableEq, Repr

namespace Integer

/-- The greatest number of digits that is read. -/
def digitLimit : Nat := 4300

/-- How much of a quoted text a message shows. -/
def shownLength : Nat := 200

/-- White space that may stand around an integer. -/
def isPadding (c : Char) : Bool := isBlank c && !(0x1C ≤ c.toNat && c.toNat ≤ 0x1F)

/-- A character that can stand between the first and the last digit. -/
def isBody (c : Char) : Bool := isDecimal c || c == '_'

/-- Do single underscores at most stand between digits, with a digit at both ends? -/
def wellGrouped (body : Text) : Bool :=
  (Text.splitOn '_' body).all fun group => !group.isEmpty

/-- The number that a run of digits writes; underscores are passed over. -/
def valueOf (body : Text) : Nat :=
  (body.filterMap decimalValue?).foldl (fun n d => 10 * n + d) 0

/-- Splits off a sign: is it a minus, and what follows. -/
def splitSign : Text → Bool × Text
  | '-' :: cs => (true, cs)
  | '+' :: cs => (false, cs)
  | cs => (false, cs)

/-- Reads an integer. -/
def read (t : Text) : Except IntegerError Int :=
  let (negative, unsigned) := splitSign (t.dropWhile isPadding)
  let body := unsigned.takeWhile isBody
  let digits := (body.filter isDecimal).length
  if !wellGrouped body then .error .malformed
  else if digitLimit < digits then .error (.tooLong digits)
  else if !(unsigned.dropWhile isBody).all isPadding then .error .malformed
  else .ok (if negative then -(valueOf body : Int) else valueOf body)

/-- Reads an integer, if the text is one. -/
def read? (t : Text) : Option Int := (read t).toOption

end Integer

/-- The wording of an error about a text. -/
def IntegerError.message (t : Text) : IntegerError → String
  | .malformed =>
    "invalid literal for int() with base 10: "
      ++ String.ofList ((Quoted.quote t).take Integer.shownLength)
  | .tooLong digits =>
    "Exceeds the limit (" ++ toString Integer.digitLimit
      ++ " digits) for integer string conversion: value has " ++ toString digits
      ++ " digits; use sys.set_int_max_str_digits() to increase the limit"

end LabelTemplate
