import LabelTemplate.Adapters.Yaml.Moment
import LabelTemplate.Numeral.Integer
import LabelTemplate.Value.Basic

/-!
# Scalars of a settings file

A scalar without quotes is what it looks like: nothing, a truth value, an integer, a
number with a point, a moment, or else a text. Integers come in four bases;
underscores may stand between digits, and colons divide a number in base sixty. A
number without a point is never a fraction, so `1e5` is a text.

A scalar in quotes is a text. Between single quotes a quote is written twice;
between double quotes a backslash introduces an escape. Lines are folded: a line
break becomes a space, of several one is dropped, and the white space around them
does not count. The separators of lines and paragraphs are kept as they are.
-/

namespace LabelTemplate.Adapters.Yaml.Scalar

/-- The spellings of nothing. -/
def nothingWords : List String := ["", "~", "null", "Null", "NULL"]

/-- The spellings of yes. -/
def yesWords : List String := ["yes", "Yes", "YES", "true", "True", "TRUE", "on", "On", "ON"]

/-- The spellings of no. -/
def noWords : List String := ["no", "No", "NO", "false", "False", "FALSE", "off", "Off", "OFF"]

/-- The number that digits write in a base up to sixteen; underscores are passed over. -/
def valueIn (base : Nat) (digits : Text) : Nat :=
  (digits.filterMap hexValue?).foldl (fun n d => base * n + d) 0

/-- Is this a digit of the base, or an underscore? -/
def isDigitIn (base : Nat) (c : Char) : Bool := c == '_' || (hexValue? c).any (· < base)

/-- Are these digits of the base, at least one? -/
def allIn (base : Nat) (digits : Text) : Bool := !digits.isEmpty && digits.all (isDigitIn base)

/-- A part of a number in base sixty behind its first colon. -/
def isSixtieth (part : Text) : Bool :=
  match part with
  | [c] => c.isDigit
  | [c, d] => '0' ≤ c && c ≤ '5' && d.isDigit
  | _ => false

/-- An integer without its sign. -/
def magnitude? (t : Text) : Option Nat :=
  match t with
  | ['0'] => some 0
  | '0' :: 'b' :: digits => if allIn 2 digits then some (valueIn 2 digits) else none
  | '0' :: 'x' :: digits => if allIn 16 digits then some (valueIn 16 digits) else none
  | '0' :: digits => if allIn 8 digits then some (valueIn 8 digits) else none
  | c :: _ =>
    match Text.splitOn ':' t with
    | whole :: parts =>
      if c.isDigit && whole.all (isDigitIn 10) && parts.all isSixtieth then
        some (parts.foldl (fun n part => 60 * n + valueIn 10 part) (valueIn 10 whole))
      else none
    | [] => none
  | [] => none

/-- An integer. -/
def integer? (t : Text) : Option Int :=
  let (negative, unsigned) := Decimal.splitSign t
  (magnitude? unsigned).map fun n => if negative then -(n : Int) else n

/-- Is this nothing, or a mark, a sign and digits? -/
def isExponent : Text → Bool
  | [] => true
  | mark :: sign :: digits =>
    (mark == 'e' || mark == 'E') && (sign == '+' || sign == '-') && !digits.isEmpty
      && digits.all Char.isDigit
  | _ => false

/-- A number with a point and perhaps an exponent, without its sign. -/
def plainNumber? (signed : Bool) (t : Text) : Option Binary64 :=
  let whole := t.takeWhile (isDigitIn 10)
  match t.dropWhile (isDigitIn 10) with
  | '.' :: rest =>
    let fraction := rest.takeWhile (isDigitIn 10)
    let first := if whole.isEmpty then fraction else whole
    -- Without digits before the point there is no sign either.
    if first.head?.any Char.isDigit && isExponent (rest.dropWhile (isDigitIn 10))
        && !(whole.isEmpty && signed) then
      Decimal.read? (t.filter (· != '_'))
    else none
  | _ => none

/-- The value of parts in base sixty; the last is the first of the list and is given as a number. -/
def sumOfSixtieths (last : Binary64) (parts : List Text) : Binary64 :=
  (parts.foldl (fun (sum, power) part =>
    (sum.addSize ((Binary64.ofInt (valueIn 10 part)).mulNat power), 60 * power)) (last, 60)).1

/-- A number in base sixty whose last part has a point, without its sign. -/
def sixtiethNumber? (t : Text) : Option Binary64 :=
  match Text.splitOn ':' (t.takeWhile (· != '.')), t.dropWhile (· != '.') with
  | whole :: part :: parts, '.' :: fraction =>
    if whole.head?.any Char.isDigit && whole.all (isDigitIn 10)
        && (part :: parts).all isSixtieth && fraction.all (isDigitIn 10) then
      match (whole :: part :: parts).reverse with
      | last :: others =>
        (Decimal.read? (last ++ '.' :: fraction.filter (· != '_'))).map (sumOfSixtieths · others)
      | [] => none
    else none
  | _, _ => none

/-- A number with a point. -/
def number? (t : Text) : Option Binary64 :=
  let (negative, unsigned) := Decimal.splitSign t
  if [".inf", ".Inf", ".INF"].contains (String.ofList unsigned) then
    some (Binary64.infinity negative)
  else if [".nan", ".NaN", ".NAN"].contains (String.ofList t) then some (Binary64.nan true)
  else
    let size := (plainNumber? (unsigned.length < t.length) unsigned).or (sixtiethNumber? unsigned)
    size.map fun x => if negative then x.negate else x

/-- Why a scalar that looks like a number or a moment is none. -/
inductive ScalarError where
  /-- The integer has more digits than are read. -/
  | tooLong (digits : Nat)
  /-- There is no digit behind the mark of the base. -/
  | noDigits (base : Nat)
  /-- There is no such day or time. -/
  | moment (cause : MomentError)
deriving DecidableEq, Repr

/-- The wording of an error. -/
def ScalarError.message : ScalarError → String
  | .tooLong digits => (IntegerError.tooLong digits).message []
  | .noDigits base => "invalid literal for int() with base " ++ toString base ++ ": ''"
  | .moment cause => cause.message

/-- What is wrong with an integer, given without its sign. -/
def integerError? (t : Text) : Option ScalarError :=
  let digits := t.filter (· != '_')
  match digits with
  | ['0', 'b'] => some (.noDigits 2)
  | ['0', 'x'] => some (.noDigits 16)
  | '0' :: _ => none
  | _ =>
    let longest := ((Text.splitOn ':' digits).map List.length).foldl max 0
    if Integer.digitLimit < longest then some (.tooLong longest) else none

/-- What a scalar without quotes is. -/
def resolve (t : Text) : Except ScalarError Value :=
  let word := String.ofList t
  if nothingWords.contains word then .ok .null
  else if yesWords.contains word then .ok (.bool true)
  else if noWords.contains word then .ok (.bool false)
  else match number? t, integer? t, Moment.read? t with
    | some x, _, _ => .ok (.float x)
    | none, some n, _ =>
      match integerError? (Decimal.splitSign t).2 with
      | some e => .error e
      | none => .ok (.int n)
    | none, none, some m =>
      match m.error? with
      | some e => .error (.moment e)
      | none => .ok (.other (if m.clock.isSome then "datetime.datetime" else "datetime.date") false)
    | none, none, none => .ok (.text t)

/-! ## Between quotes -/

/-- Does this character end a line? -/
def isBreak (c : Char) : Bool := [0x0A, 0x85, 0x2028, 0x2029].contains c.toNat

/-- A line break as it is kept in a text. -/
def keptBreak (c : Char) : Char := if c.toNat = 0x85 then '\n' else c

/-- What the line breaks between two lines come to: a single one is a space. -/
def folded (first : Char) (others : Text) : Text :=
  if first != '\n' then first :: others
  else if others.isEmpty then [' ']
  else others

/-- White space between quotes that has been passed but not settled yet. -/
inductive Pending where
  /-- White space within a line. -/
  | gap (t : Text)
  /-- Line breaks, behind the first; that is absent if a backslash stands before it. -/
  | breaks (first : Option Char) (others : Text)

namespace Pending

/-- What the white space comes to. -/
def settled : Pending → Text
  | gap t => t
  | breaks (some first) others => folded first others
  | breaks none others => others

/-- The white space with one more character of it. -/
def push (c : Char) : Pending → Pending
  | gap t => if isBreak c then breaks (some (keptBreak c)) [] else gap (t ++ [c])
  | breaks first others =>
    breaks first (if isBreak c then others ++ [keptBreak c] else others)

end Pending

/-- Is this white space between quotes? -/
def isSpacing (c : Char) : Bool := c == ' ' || c == '\t' || isBreak c

/-- A text with more of it in front. -/
def precededBy (t : Text) (found : Text × Text) : Text × Text := (t ++ found.1, found.2)

/-- The rest of a text between single quotes, and what comes behind the closing one. -/
def singleQuotedFrom? (pending : Pending) : Text → Option (Text × Text)
  | [] => none
  | '\'' :: '\'' :: cs =>
    (singleQuotedFrom? (.gap []) cs).map (precededBy (pending.settled ++ ['\'']))
  | '\'' :: cs => some (pending.settled, cs)
  | c :: cs =>
    if isSpacing c then singleQuotedFrom? (pending.push c) cs
    else (singleQuotedFrom? (.gap []) cs).map (precededBy (pending.settled ++ [c]))

/-- The escapes of a single letter between double quotes. -/
def letterEscapes : List (Char × Nat) :=
  [('0', 0x00), ('a', 0x07), ('b', 0x08), ('t', 0x09), ('\t', 0x09), ('n', 0x0A), ('v', 0x0B),
   ('f', 0x0C), ('r', 0x0D), ('e', 0x1B), (' ', 0x20), ('"', 0x22), ('/', 0x2F), ('\\', 0x5C),
   ('N', 0x85), ('_', 0xA0), ('L', 0x2028), ('P', 0x2029)]

/-- How many digits an escape by code point has. -/
def codeLength? (c : Char) : Option Nat :=
  if c = 'x' then some 2 else if c = 'u' then some 4 else if c = 'U' then some 8 else none

/-- What is being read between double quotes. -/
inductive Reading where
  /-- Characters that stand for themselves, behind white space. -/
  | plain (pending : Pending)
  /-- The character behind a backslash. -/
  | escape
  /-- The digits of a code point: how many more after the next one, and the value so far. -/
  | code (more value : Nat)

/-- The character of a code point, if it is one of a text. -/
def charOf? (n : Nat) : Option Char := if n.isValidChar then some (Char.ofNat n) else none

/-- The rest of a text between double quotes, and what comes behind the closing one. -/
def doubleQuotedFrom? (reading : Reading) : Text → Option (Text × Text)
  | [] => none
  | c :: cs =>
    let fresh := Reading.plain (.gap [])
    match reading with
    | .plain pending =>
      if c = '"' then some (pending.settled, cs)
      else if c = '\\' then (doubleQuotedFrom? .escape cs).map (precededBy pending.settled)
      else if isSpacing c then doubleQuotedFrom? (.plain (pending.push c)) cs
      else (doubleQuotedFrom? fresh cs).map (precededBy (pending.settled ++ [c]))
    | .escape =>
      match codeLength? c, letterEscapes.find? (·.1 == c) with
      | some length, _ => doubleQuotedFrom? (.code (length - 1) 0) cs
      | none, some (_, n) => (doubleQuotedFrom? fresh cs).map (precededBy [Char.ofNat n])
      | none, none =>
        if isBreak c then doubleQuotedFrom? (.plain (.breaks none [])) cs else none
    | .code more value =>
      match hexValue? c, more with
      | none, _ => none
      | some d, 0 =>
        (charOf? (16 * value + d)).bind fun c => (doubleQuotedFrom? fresh cs).map (precededBy [c])
      | some d, more + 1 => doubleQuotedFrom? (.code more (16 * value + d)) cs

/-- A text in quotes at the beginning, and what comes behind it. -/
def quoted? : Text → Option (Text × Text)
  | '\'' :: cs => singleQuotedFrom? (.gap []) cs
  | '"' :: cs => doubleQuotedFrom? (.plain (.gap [])) cs
  | _ => none

end LabelTemplate.Adapters.Yaml.Scalar
