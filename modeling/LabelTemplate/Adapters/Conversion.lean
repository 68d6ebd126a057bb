import LabelTemplate.Numeral.Decimal
import LabelTemplate.Text.Blank
import LabelTemplate.Text.Utf8
import LabelTemplate.Value.Check

/-!
# Reading values as what they are meant to be

A value need not have the wanted type itself if it can be meant in one way only: a
number without a fraction stands for an integer, a text for the number it writes,
and the usual words for yes and no stand for truth values. Bytes stand for the text
that they encode. Texts are taken as they are and nothing else is taken for a text.
-/

namespace LabelTemplate.Value

/-- Reads bytes as the text that they encode; bytes of no text are a fault. -/
def ofBytes {α : Type} (read : Text → Checked α) (reason : Reason) (bytes : List UInt8) :
    Checked α :=
  if (Utf8.badBytes? bytes).isSome then .fault reason else read (Utf8.decode bytes)

/-- White space around a number in a text. -/
def isPadding (c : Char) : Bool := isBlank c && !(0x1C ≤ c.toNat && c.toNat ≤ 0x1F)

/-- A number without the single underscores between its characters, if there are any. -/
def ungroup? (t : Text) : Option Text :=
  let groups := Text.splitOn '_' t
  if 1 < groups.length && groups.all (!·.isEmpty) then some groups.flatten else none

/-- A text without a leading plus; one before a minus stays. -/
def dropPlus : Text → Text
  | '+' :: cs => if cs.head? = some '-' then '+' :: cs else cs
  | cs => cs

/--
An integer behind zeros, among which there may be underscores; `last` is the character
before the rest. A zero stays if nothing or a point comes behind it.
-/
def behindZeros? (last : Char) : Text → Option Text
  | [] => some [last]
  | c :: cs =>
    if c = '0' || c = '_' then behindZeros? c cs
    else if c.isDigit || c = '-' then some (c :: cs)
    else if c = '.' then some (last :: c :: cs)
    else none

/-- An integer without the zeros in front of it; it has to begin with a digit or a minus. -/
def dropZeros? : Text → Option Text
  | [] => none
  | c :: cs =>
    if c = '0' then behindZeros? c cs
    else if c.isDigit || c = '-' then some (c :: cs)
    else none

/-- A number without a point that only zeros follow. -/
def dropZeroFraction (t : Text) : Text :=
  match t.dropWhile (· != '.') with
  | '.' :: c :: cs => if (c :: cs).all (· == '0') then t.takeWhile (· != '.') else t
  | _ => t

/-- The greatest number of digits of an integer that is read. -/
def integerLimit : Nat := 4300

/-- Reads a positive integer or zero; there is no zero in front of other digits. -/
def plainInteger (t : Text) : Checked Nat :=
  if t == ['0'] then .accepted 0
  else if t.head?.all (fun c => c == '0' || !c.isDigit) then .fault .unreadableInteger
  else
    let digits := t.takeWhile Char.isDigit
    if integerLimit < digits.length then .fault .tooLarge
    else if digits.length < t.length then .fault .unreadableInteger
    else .accepted (Decimal.digitsValue digits)

/-- Reads an integer, which has a minus if it is negative. -/
def signedInteger : Text → Checked Int
  | '-' :: cs => (plainInteger cs).map fun n => -Int.ofNat n
  | cs => (plainInteger cs).map Int.ofNat

/-- Reads an integer from a text. -/
def integerOfText (t : Text) : Checked Int :=
  match dropZeros? (dropPlus (Text.trimWhere isPadding t)) with
  | none => .fault .unreadableInteger
  | some plain =>
    let plain := dropZeroFraction plain
    signedInteger ((ungroup? plain).getD plain)

/-- The greatest size of an integer that a number with a fraction part may stand for. -/
def exactLimit : Nat := twoTo 63

/-- Reads an integer from a double precision number. -/
def integerOfFloat (x : Binary64) : Checked Int :=
  if x.magnitude?.isNone then .fault .notFinite
  else match x.toInt? with
    | none => .fault .fraction
    | some n => if n.natAbs < exactLimit then .accepted n else .fault .tooLarge

/-- Reads an integer. -/
def asInteger : Value → Checked Int
  | .int n => .accepted n
  | .bool b => .accepted (if b then 1 else 0)
  | .float x => integerOfFloat x
  | .text t => integerOfText t
  | .bytes b => ofBytes integerOfText .unreadableInteger b
  | .null | .other .. | .list _ | .map _ => .fault .notInteger

/-- Reads a number from a text. -/
def numberOfText (t : Text) : Checked Binary64 :=
  let plain := Text.trimWhere isPadding t
  match (Decimal.read? plain).or ((ungroup? t).bind Decimal.read?) with
  | some x => .accepted x
  | none => .fault .unreadableNumber

/-- Reads a number from an integer; one beyond all numbers is not read. -/
def numberOfInt (n : Int) : Checked Binary64 :=
  let x := Binary64.ofInt n
  if x.magnitude?.isNone then .fault .notNumber else .accepted x

/-- Reads a number. -/
def asNumber : Value → Checked Binary64
  | .float x => .accepted x
  | .int n => numberOfInt n
  | .bool b => .accepted (Binary64.ofInt (if b then 1 else 0))
  | .text t => numberOfText t
  | .bytes b => ofBytes numberOfText .unreadableNumber b
  | .null | .other .. | .list _ | .map _ => .fault .notNumber

/-- The words for yes. -/
def yesWords : List String := ["1", "on", "t", "true", "y", "yes"]

/-- The words for no. -/
def noWords : List String := ["0", "off", "f", "false", "n", "no"]

/-- Reads a truth value from a text. -/
def boolOfText (t : Text) : Checked Bool :=
  let word := String.ofList (t.map Char.toLower)
  if yesWords.contains word then .accepted true
  else if noWords.contains word then .accepted false
  else .fault .unreadableBoolean

/-- Reads a truth value from an integer. -/
def boolOfInt (n : Int) : Checked Bool :=
  if n = 0 then .accepted false
  else if n = 1 then .accepted true
  else .fault .unreadableBoolean

/-- Reads a truth value. -/
def asBool : Value → Checked Bool
  | .bool b => .accepted b
  | .int n => boolOfInt n
  | .float x =>
    match x.toInt? with
    | some n => boolOfInt n
    | none => .fault .notBoolean
  | .text t => boolOfText t
  | .bytes b => ofBytes boolOfText .unreadableBoolean b
  | .null | .other .. | .list _ | .map _ => .fault .notBoolean

/-- Reads a text. -/
def asText : Value → Checked Text
  | .text t => .accepted t
  | .bytes b => ofBytes .accepted .notUnicode b
  | _ => .fault .notText

/-- Reads a value that may be absent. -/
def asOptional {α : Type} (read : Value → Checked α) : Value → Checked (Option α)
  | .null => .accepted none
  | v => (read v).map some

/-- Reads values under keys. -/
def asRecord {α : Type} (read : List (Text × Value) → Checked α) : Value → Checked α
  | .map entries => read entries
  | _ => .fault .notRecord

end LabelTemplate.Value
