import LabelTemplate.Numeral.Binary64

/-!
# The short form of a measure

A measure is written with six significant digits at most. Rounding is to the
nearest six-digit number, a tie to the even last digit. Between one ten-thousandth
and a million the digits are written out, elsewhere with an exponent of at least
two digits; zeros at the end of a fraction are left out, and with them the point.
-/

namespace LabelTemplate.Binary64

/-- The number of significant digits. -/
def significantDigits : Nat := 6

/-- The exponent `e` with `10 ^ e ≤ num / den < 10 ^ (e + 1)`, for a quotient that is not zero. -/
def decimalExponent (num den : Nat) : Int :=
  let guess : Int := ((Nat.toDigits 10 num).length : Int) - (Nat.toDigits 10 den).length
  let atLeast : Bool :=
    if guess < 0 then den ≤ num * tenTo (-guess).toNat else den * tenTo guess.toNat ≤ num
  if atLeast then guess else guess - 1

/-- The six leading digits of a quotient that is not zero, as a number, and its exponent. -/
def leadingDigits (num den : Nat) : Nat × Int :=
  let exponent := decimalExponent num den
  let shift := exponent - (significantDigits - 1 : Nat)
  let digits :=
    if shift < 0 then roundDiv (num * tenTo (-shift).toNat) den
    else roundDiv num (den * tenTo shift.toNat)
  if digits = tenTo significantDigits then (tenTo (significantDigits - 1), exponent + 1)
  else (digits, exponent)

/-- Digits with a point after the first `whole`, without zeros at the end of the fraction. -/
def pointed (digits : Text) (whole : Nat) : Text :=
  let fraction := Text.trimEndWhere (· == '0') (digits.drop whole)
  digits.take whole ++ if fraction.isEmpty then [] else '.' :: fraction

/-- The exponent after its mark: a sign and at least two digits. -/
def exponentText (exponent : Int) : Text :=
  'e' :: (if exponent < 0 then '-' else '+') :: Text.padStart 2 '0' (Text.ofNat exponent.natAbs)

/-- The size of a measure that is not zero. -/
def magnitudeText (num den : Nat) : Text :=
  let (leading, exponent) := leadingDigits num den
  let digits := Text.ofNat leading
  if exponent < -4 || (significantDigits : Int) ≤ exponent then
    pointed digits 1 ++ exponentText exponent
  else if exponent < 0 then
    pointed ('0' :: List.replicate ((-exponent).toNat - 1) '0' ++ digits) 1
  else pointed digits (exponent.toNat + 1)

/-- The short form of a measure. -/
def shortText (x : Binary64) : Text :=
  if x.isNan then ['n', 'a', 'n']
  else
    let size := match x.magnitude? with
      | none => ['i', 'n', 'f']
      | some (num, den) => if num = 0 then ['0'] else magnitudeText num den
    if x.isNegative then '-' :: size else size

end LabelTemplate.Binary64
