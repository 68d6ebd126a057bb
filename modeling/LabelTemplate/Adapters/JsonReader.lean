import LabelTemplate.Numeral.Decimal
import LabelTemplate.Numeral.Integer
import LabelTemplate.Value.Basic

/-!
# Reading JSON

A value may be handed over as JSON in a single text. White space may stand around every
part. A number with a point or an exponent is a double precision number, any other an
integer; the names of infinity and of what is no number are read too. Between quotes a
control character stands only behind a backslash, and a character beyond the first
65536 is written as two escapes.
-/

namespace LabelTemplate.Adapters.JsonReader

/-- White space between the parts. -/
def isGap (c : Char) : Bool := c == ' ' || c == '\t' || c == '\n' || c == '\r'

/-! ## Texts -/

/-- The escapes of a single letter. -/
def letterEscapes : List (Char × Nat) :=
  [('"', 0x22), ('\\', 0x5C), ('/', 0x2F), ('b', 0x08), ('f', 0x0C), ('n', 0x0A), ('r', 0x0D),
   ('t', 0x09)]

/-- What is being read between the quotes. -/
inductive Reading where
  /-- Characters that stand for themselves. -/
  | plain
  /-- The character behind a backslash. -/
  | escape
  /-- The digits of a code: how many more after the next one, and the value so far. -/
  | code (more value : Nat)

/-- The character that two codes make together. -/
def paired? (high low : Nat) : Option Char :=
  if 0xD800 ≤ high && high < 0xDC00 && 0xDC00 ≤ low && low < 0xE000 then
    some (Char.ofNat (0x10000 + 0x400 * (high - 0xD800) + (low - 0xDC00)))
  else none

/-- Characters from codes: two codes that belong together are one character. -/
def joined : List Nat → Text
  | high :: low :: codes =>
    match paired? high low with
    | some c => c :: joined codes
    | none => Char.ofNat high :: joined (low :: codes)
  | [code] => [Char.ofNat code]
  | [] => []

/-- The codes up to the closing quote, and what comes behind it. -/
def codes? (reading : Reading) : Text → Option (List Nat × Text)
  | [] => none
  | c :: cs =>
    let andThen := fun (n : Nat) (found : List Nat × Text) => (n :: found.1, found.2)
    match reading with
    | .plain =>
      if c = '"' then some ([], cs)
      else if c = '\\' then codes? .escape cs
      else if c.toNat < 0x20 then none
      else (codes? .plain cs).map (andThen c.toNat)
    | .escape =>
      if c = 'u' then codes? (.code 3 0) cs
      else match letterEscapes.find? (·.1 == c) with
        | some (_, n) => (codes? .plain cs).map (andThen n)
        | none => none
    | .code more value =>
      match hexValue? c, more with
      | none, _ => none
      | some d, 0 => (codes? .plain cs).map (andThen (16 * value + d))
      | some d, more + 1 => codes? (.code more (16 * value + d)) cs

/-- A text behind its opening quote. -/
def text? (t : Text) : Option (Text × Text) :=
  (codes? .plain t).map fun (codes, rest) => (joined codes, rest)

/-! ## Numbers -/

/-- The digits of a number in front of its point, and what comes behind them. -/
def wholeDigits (t : Text) : Text × Text :=
  match t with
  | '0' :: rest => (['0'], rest)
  | _ => (t.takeWhile Char.isDigit, t.dropWhile Char.isDigit)

/-- A point with digits, and what comes behind them; nothing without digits. -/
def fractionDigits (t : Text) : Text × Text :=
  match t with
  | '.' :: rest =>
    let digits := rest.takeWhile Char.isDigit
    if digits.isEmpty then ([], t) else ('.' :: digits, rest.dropWhile Char.isDigit)
  | _ => ([], t)

/-- An exponent, and what comes behind it; nothing without digits. -/
def exponentDigits (t : Text) : Text × Text :=
  match t with
  | mark :: rest =>
    let digits := (Decimal.splitSign rest).2.takeWhile Char.isDigit
    let length := rest.length - (Decimal.splitSign rest).2.length + digits.length
    if (mark = 'e' || mark = 'E') && !digits.isEmpty then
      (mark :: rest.take length, rest.drop length)
    else ([], t)
  | [] => ([], t)

/-- A number without its sign. -/
def number? (negative : Bool) (t : Text) : Option (Value × Text) :=
  let (whole, rest) := wholeDigits t
  let (fraction, rest) := fractionDigits rest
  let (exponent, rest) := exponentDigits rest
  if whole.isEmpty then none
  else if fraction.isEmpty && exponent.isEmpty then
    if Integer.digitLimit < whole.length then none
    else
      let size : Int := Decimal.digitsValue whole
      some (.int (if negative then -size else size), rest)
  else (Decimal.magnitude? negative (whole ++ fraction ++ exponent)).map fun x => (.float x, rest)

/-- The words that stand for values. -/
def words : List (Text × Value) :=
  [("null".toList, .null), ("true".toList, .bool true), ("false".toList, .bool false),
   ("NaN".toList, .float (Binary64.nan false)),
   ("Infinity".toList, .float (Binary64.infinity false)),
   ("-Infinity".toList, .float (Binary64.infinity true))]

/-- A word or a number. -/
def scalar? (t : Text) : Option (Value × Text) :=
  match words.find? fun (word, _) => word.isPrefixOf t with
  | some (word, v) => some (v, t.drop word.length)
  | none =>
    match t with
    | '-' :: rest => number? true rest
    | _ => number? false t

/-! ## Values -/

/-- The rest of a list behind a part of it: whether it goes on, and what comes then. -/
def afterPart? (closing : Char) (t : Text) : Option (Bool × Text) :=
  match t.dropWhile isGap with
  | c :: rest =>
    if c = ',' then some (true, rest.dropWhile isGap)
    else if c = closing then some (false, rest)
    else none
  | [] => none

mutual

/-- A value, and what comes behind it. -/
def value? : Nat → Text → Option (Value × Text)
  | 0, _ => none
  | fuel + 1, t =>
    match t with
    | '"' :: cs => (text? cs).map fun (s, rest) => (.text s, rest)
    | '[' :: cs =>
      match cs.dropWhile isGap with
      | ']' :: rest => some (.list [], rest)
      | first => (items? fuel first).map fun (items, rest) => (.list items, rest)
    | '{' :: cs =>
      match cs.dropWhile isGap with
      | '}' :: rest => some (.map [], rest)
      | first => (entries? fuel first).map fun (entries, rest) => (.map entries, rest)
    | _ => scalar? t

/-- At least one item, and what comes behind the closing bracket. -/
def items? : Nat → Text → Option (List Value × Text)
  | 0, _ => none
  | fuel + 1, t => do
    let (item, rest) ← value? fuel t
    let (goesOn, rest) ← afterPart? ']' rest
    if goesOn then
      let (items, rest) ← items? fuel rest
      pure (item :: items, rest)
    else pure ([item], rest)

/-- At least one entry, and what comes behind the closing brace. -/
def entries? : Nat → Text → Option (List (Text × Value) × Text)
  | 0, _ => none
  | fuel + 1, t =>
    match t with
    | '"' :: cs => do
      let (key, rest) ← text? cs
      match rest.dropWhile isGap with
      | ':' :: rest =>
        let (value, rest) ← value? fuel (rest.dropWhile isGap)
        let (goesOn, rest) ← afterPart? (Char.ofNat 0x7D) rest
        if goesOn then
          let (entries, rest) ← entries? fuel rest
          pure ((key, value) :: entries, rest)
        else pure ([(key, value)], rest)
      | _ => none
    | _ => none

end

/-- Reads JSON; there is nothing but white space around the value. -/
def read? (t : Text) : Option Value :=
  match value? (2 * t.length + 2) (t.dropWhile isGap) with
  | some (v, rest) => if rest.all isGap then some v else none
  | none => none

end LabelTemplate.Adapters.JsonReader
