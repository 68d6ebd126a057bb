import LabelTemplate.Text.Basic

/-!
# Double precision numbers

Measures of a label are double precision numbers, kept as their 64 bits. A finite
number is `m · 2 ^ q` with natural `m`; `magnitude?` gives it as an exact quotient
and `ofRatio` goes the other way, to the nearest number and on a tie to the one
with the even last bit. All arithmetic in between is on natural numbers, so a
rounding happens only where it is written.
-/

namespace LabelTemplate

/-- A power of two. -/
def twoTo (n : Nat) : Nat := Nat.pow 2 n

/-- A power of ten. -/
def tenTo (n : Nat) : Nat := Nat.pow 10 n

/-- A double precision number, as its bits. -/
structure Binary64 where
  /-- Sign, exponent and fraction, from the most significant bit on. -/
  bits : UInt64
deriving DecidableEq, Repr

namespace Binary64

/-- The bits of infinity: exponent all ones, fraction zero. -/
def infinityBits : Nat := 0x7FF0000000000000

/-- A number from its sign and the bits below the sign. -/
def ofMagnitude (negative : Bool) (magnitude : Nat) : Binary64 :=
  ⟨(magnitude + if negative then 0x8000000000000000 else 0).toUInt64⟩

/-- Infinity of either sign. -/
def infinity (negative : Bool) : Binary64 := ofMagnitude negative infinityBits

/-- What stands for no number, of either sign. -/
def nan (negative : Bool) : Binary64 := ofMagnitude negative 0x7FF8000000000000

/-- Is the sign bit set? -/
def isNegative (x : Binary64) : Bool := 0x8000000000000000 ≤ x.bits.toNat

/-- The bits below the sign. -/
def magnitudeBits (x : Binary64) : Nat := x.bits.toNat % 0x8000000000000000

/-- Is this no number? -/
def isNan (x : Binary64) : Bool := infinityBits < x.magnitudeBits

/-- The size of a finite number as numerator and denominator. -/
def magnitude? (x : Binary64) : Option (Nat × Nat) :=
  let exponent := x.magnitudeBits / twoTo 52
  let fraction := x.magnitudeBits % twoTo 52
  if exponent = 2047 then none
  else if exponent = 0 then some (fraction, twoTo 1074)
  else if exponent < 1075 then some (fraction + twoTo 52, twoTo (1075 - exponent))
  else some ((fraction + twoTo 52) * twoTo (exponent - 1075), 1)

/-- The natural number nearest to a quotient; a tie goes to the even neighbour. -/
def roundDiv (num den : Nat) : Nat :=
  let quotient := num / den
  let twice := 2 * (num % den)
  if den < twice || (twice = den && quotient % 2 = 1) then quotient + 1 else quotient

/-- A quotient scaled by a power of two. -/
def scale (num den : Nat) (power : Int) : Nat × Nat :=
  if power < 0 then (num, den * twoTo (-power).toNat) else (num * twoTo power.toNat, den)

/-- The number nearest to a quotient of natural numbers; past the greatest one, infinity. -/
def ofRatio (negative : Bool) (num den : Nat) : Binary64 :=
  if num = 0 then ofMagnitude negative 0
  else
    -- The exponent at which the scaled quotient has 53 bits, up to one too many.
    let guess : Int := (num.log2 : Int) - den.log2 - 52
    let (n, d) := scale num den (-guess)
    let exponent := max (if n < d * twoTo 52 then guess - 1 else guess) (-1074)
    let (n, d) := scale num den (-exponent)
    let bits := (exponent + 1074).toNat * twoTo 52 + roundDiv n d
    ofMagnitude negative (min bits infinityBits)

/-- The number nearest to an integer. -/
def ofInt (n : Int) : Binary64 := ofRatio (n < 0) n.natAbs 1

/-- The number nearest to `digits · 10 ^ exponent`. -/
def ofDecimal (negative : Bool) (digits : Nat) (exponent : Int) : Binary64 :=
  let size := (Nat.toDigits 10 digits).length + exponent
  if digits = 0 then ofMagnitude negative 0
  else if 400 < size then infinity negative
  else if size < -400 then ofMagnitude negative 0
  else if exponent < 0 then ofRatio negative digits (tenTo (-exponent).toNat)
  else ofRatio negative (digits * tenTo exponent.toNat) 1

/-- The integer that a number is, if it is one. -/
def toInt? (x : Binary64) : Option Int :=
  match x.magnitude? with
  | none => none
  | some (num, den) =>
    if num % den = 0 then
      some (if x.isNegative then -((num / den : Nat) : Int) else ((num / den : Nat) : Int))
    else none

/-- The quotient of a finite number and a natural number, rounded to the nearest number. -/
def divNat (x : Binary64) (n : Nat) : Binary64 :=
  match x.magnitude? with
  | none => x
  | some (num, den) => ofRatio x.isNegative num (den * n)

/-- The sum of the sizes of two numbers, rounded to the nearest number. -/
def addSize (x y : Binary64) : Binary64 :=
  match x.magnitude?, y.magnitude? with
  | some (num, den), some (num', den') => ofRatio false (num * den' + num' * den) (den * den')
  | _, _ => infinity false

/-- The product of a number and a natural number, rounded to the nearest number. -/
def mulNat (x : Binary64) (n : Nat) : Binary64 :=
  match x.magnitude? with
  | none => x
  | some (num, den) => ofRatio x.isNegative (num * n) den

/-- The number with the other sign. -/
def negate (x : Binary64) : Binary64 := ofMagnitude (!x.isNegative) x.magnitudeBits

end Binary64

end LabelTemplate
