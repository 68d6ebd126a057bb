import LabelTemplate.Numeral.Binary64

/-!
# Reading decimal numbers

A decimal number is an optional sign, digits with a point somewhere, of which at
least one must be there, and an optional exponent. The names of infinity and of
what is no number are read too, in any letter case. White space around the number
is the reader's caller's to remove.
-/

namespace LabelTemplate.Decimal

/-- The number that ASCII digits write. -/
def digitsValue (digits : Text) : Nat :=
  digits.foldl (fun n c => 10 * n + (c.toNat - '0'.toNat)) 0

/-- Splits off a sign: is it a minus, and what follows. -/
def splitSign : Text → Bool × Text
  | '-' :: cs => (true, cs)
  | '+' :: cs => (false, cs)
  | cs => (false, cs)

/-- The exponent after its mark, with nothing behind it; without a mark it is zero. -/
def exponent? : Text → Option Int
  | [] => some 0
  | c :: cs =>
    let (negative, digits) := splitSign cs
    if (c = 'e' || c = 'E') && !digits.isEmpty && digits.all Char.isDigit then
      some (if negative then -(digitsValue digits : Int) else digitsValue digits)
    else none

/-- The number without its sign: digits, point, fraction and exponent. -/
def magnitude? (negative : Bool) (t : Text) : Option Binary64 :=
  let whole := t.takeWhile Char.isDigit
  let rest := t.dropWhile Char.isDigit
  let (fraction, rest) := match rest with
    | '.' :: cs => (cs.takeWhile Char.isDigit, cs.dropWhile Char.isDigit)
    | cs => ([], cs)
  if whole.isEmpty && fraction.isEmpty then none
  else (exponent? rest).map fun e =>
    Binary64.ofDecimal negative (digitsValue (whole ++ fraction)) (e - fraction.length)

/-- Reads a decimal number. -/
def read? (t : Text) : Option Binary64 :=
  let (negative, unsigned) := splitSign t
  let name := String.ofList (unsigned.map Char.toLower)
  if name == "inf" || name == "infinity" then some (Binary64.infinity negative)
  else if name == "nan" then some (Binary64.nan negative)
  else magnitude? negative unsigned

end LabelTemplate.Decimal
