import LabelTemplate.Numeral.Decimal

/-!
# Days and points of time

A settings file may hold a day, such as `2024-05-01`, or a point of time, which has a
clock time behind the day and may have a fraction of a second and a distance from
universal time. No setting is either; what counts is that such a scalar is no text,
and that the calendar has the day.
-/

namespace LabelTemplate.Adapters.Yaml

/-- A day, or a point of time. -/
structure Moment where
  /-- The year. -/
  year : Nat
  /-- The month. -/
  month : Nat
  /-- The day of the month. -/
  day : Nat
  /-- Hour, minute and second, if it is a point of time. -/
  clock : Option (Nat × Nat × Nat) := none
deriving DecidableEq, Repr

/-- Why there is no such day or time. -/
inductive MomentError where
  /-- No calendar has the year. -/
  | year (n : Nat)
  /-- The year has no such month. -/
  | month
  /-- The month has no such day. -/
  | day
  /-- The day has no such hour. -/
  | hour
  /-- The hour has no such minute. -/
  | minute
  /-- The minute has no such second. -/
  | second
deriving DecidableEq, Repr

/-- The wording of an error. -/
def MomentError.message : MomentError → String
  | .year n => "year " ++ toString n ++ " is out of range"
  | .month => "month must be in 1..12"
  | .day => "day is out of range for month"
  | .hour => "hour must be in 0..23"
  | .minute => "minute must be in 0..59"
  | .second => "second must be in 0..59"

namespace Moment

/-- A number of at least `least` and at most `most` digits, and what comes behind it. -/
def digits? (least most : Nat) (t : Text) : Option (Nat × Text) :=
  let digits := (t.take most).takeWhile Char.isDigit
  if digits.length < least then none
  else some (Decimal.digitsValue digits, t.drop digits.length)

/-- What comes behind a character that has to stand here. -/
def behind? (c : Char) : Text → Option Text
  | d :: t => if d = c then some t else none
  | [] => none

/-- White space inside a point of time. -/
def isGap (c : Char) : Bool := c == ' ' || c == '\t'

/-- Is this nothing, or a distance from universal time? -/
def isZone : Text → Bool
  | [] | ['Z'] => true
  | sign :: t =>
    (sign == '+' || sign == '-') &&
      match digits? 1 2 t with
      | some (_, [':', a, b]) => a.isDigit && b.isDigit
      | some (_, rest) => rest.isEmpty
      | none => false

/-- What comes behind the mark between day and clock time, if this is one. -/
def behindMark? : Text → Option Text
  | 'T' :: t | 't' :: t => some t
  | c :: t => if isGap c then some (t.dropWhile isGap) else none
  | [] => none

/-- A clock time up to the end of the text. -/
def clock? (t : Text) : Option (Nat × Nat × Nat) := do
  let (hour, t) ← digits? 1 2 t
  let (minute, t) ← (behind? ':' t).bind (digits? 2 2)
  let (second, t) ← (behind? ':' t).bind (digits? 2 2)
  let t := match t with
    | '.' :: cs => cs.dropWhile Char.isDigit
    | cs => cs
  let zone := t.dropWhile isGap
  if isZone zone && (t.isEmpty || !zone.isEmpty) then some (hour, minute, second) else none

/-- Reads a day or a point of time; a day alone has two digits for month and day. -/
def read? (t : Text) : Option Moment := do
  let (year, rest) ← digits? 4 4 t
  let (month, rest) ← (behind? '-' rest).bind (digits? 1 2)
  let (day, rest) ← (behind? '-' rest).bind (digits? 1 2)
  if rest.isEmpty then
    if t.length = 10 then some { year := year, month := month, day := day } else none
  else
    let clock ← (behindMark? rest).bind clock?
    pure { year := year, month := month, day := day, clock := some clock }

/-- Does the year have a day more in February? -/
def isLeap (year : Nat) : Bool := year % 4 = 0 && (year % 100 != 0 || year % 400 = 0)

/-- How many days a month has. -/
def daysIn (year month : Nat) : Nat :=
  if month = 2 then if isLeap year then 29 else 28
  else if [4, 6, 9, 11].contains month then 30
  else 31

/-- What is wrong with a clock time. -/
def clockError? : Nat × Nat × Nat → Option MomentError
  | (hour, minute, second) =>
    if 23 < hour then some .hour
    else if 59 < minute then some .minute
    else if 59 < second then some .second
    else none

/-- The first thing that is wrong, from the year down to the second. -/
def error? (m : Moment) : Option MomentError :=
  if m.year = 0 then some (.year 0)
  else if m.month = 0 || 12 < m.month then some .month
  else if m.day = 0 || daysIn m.year m.month < m.day then some .day
  else m.clock.bind clockError?

end Moment

end LabelTemplate.Adapters.Yaml
