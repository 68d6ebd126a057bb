import LabelTemplate.Text.Basic

/-!
# Bytes and characters

Files and the answers of the render service are bytes. They are read as UTF-8, and
bytes that are none become replacement characters: one for each longest run that
could still have begun a character. Reading therefore never fails.

The reader goes byte by byte. Between characters nothing is owed; inside one it
knows how many bytes are owed and in what range the next one must lie. A byte out
of that range ends the run and is looked at again as a first byte.
-/

namespace LabelTemplate.Utf8

/-- A character begun and not yet complete. -/
structure Pending where
  /-- How many bytes are still owed. -/
  owed : Nat
  /-- The least value of the next byte. -/
  low : Nat
  /-- The greatest value of the next byte. -/
  high : Nat
  /-- The bits read so far. -/
  bits : Nat

/-- What stands for bytes that are no character. -/
def replacement : Char := Char.ofNat 0xFFFD

/-- A byte read between characters: the characters it completes and the one it begins. -/
def start (b : Nat) : Text × Option Pending :=
  if b < 0x80 then ([Char.ofNat b], none)
  else if 0xC2 ≤ b && b ≤ 0xDF then ([], some ⟨1, 0x80, 0xBF, b - 0xC0⟩)
  else if b = 0xE0 then ([], some ⟨2, 0xA0, 0xBF, b - 0xE0⟩)
  else if b = 0xED then ([], some ⟨2, 0x80, 0x9F, b - 0xE0⟩)
  else if 0xE1 ≤ b && b ≤ 0xEF then ([], some ⟨2, 0x80, 0xBF, b - 0xE0⟩)
  else if b = 0xF0 then ([], some ⟨3, 0x90, 0xBF, b - 0xF0⟩)
  else if b = 0xF4 then ([], some ⟨3, 0x80, 0x8F, b - 0xF0⟩)
  else if 0xF1 ≤ b && b ≤ 0xF3 then ([], some ⟨3, 0x80, 0xBF, b - 0xF0⟩)
  else ([replacement], none)

/-- A byte read after what is pending. -/
def step (pending : Option Pending) (b : Nat) : Text × Option Pending :=
  match pending with
  | none => start b
  | some p =>
    if p.low ≤ b && b ≤ p.high then
      let bits := p.bits * 64 + (b - 0x80)
      if p.owed ≤ 1 then ([Char.ofNat bits], none)
      else ([], some ⟨p.owed - 1, 0x80, 0xBF, bits⟩)
    else
      let (done, next) := start b
      (replacement :: done, next)

/-- The characters of the bytes that follow what is pending. -/
def decodeFrom : Option Pending → List UInt8 → Text
  | none, [] => []
  | some _, [] => [replacement]
  | pending, b :: bs =>
    let (done, next) := step pending b.toNat
    done ++ decodeFrom next bs

/-- The characters of some bytes. -/
def decode (bytes : List UInt8) : Text := decodeFrom none bytes

/-! ## Bytes that are no text -/

/-- Why bytes are no character. -/
inductive Flaw where
  /-- No character begins with the byte. -/
  | start
  /-- The character goes on with a byte that it cannot have. -/
  | continuation
  /-- The bytes end within the character. -/
  | ending
deriving DecidableEq, Repr

/-- The first bytes that are no character. -/
structure BadBytes where
  /-- How many bytes stand before them. -/
  offset : Nat
  /-- How many they are. -/
  count : Nat
  /-- The first of them. -/
  first : Nat
  /-- Why they are no character. -/
  flaw : Flaw
deriving DecidableEq, Repr

/-- The wording of a flaw. -/
def Flaw.message : Flaw → String
  | .start => "invalid start byte"
  | .continuation => "invalid continuation byte"
  | .ending => "unexpected end of data"

/-- How bad bytes are complained of. -/
def BadBytes.message (b : BadBytes) : String :=
  let place :=
    if b.count = 1 then
      "byte 0x" ++ String.ofList (Text.padStart 2 '0' (Nat.toDigits 16 b.first))
        ++ " in position " ++ toString b.offset
    else
      "bytes in position " ++ toString b.offset ++ "-" ++ toString (b.offset + b.count - 1)
  "'utf-8' codec can't decode " ++ place ++ ": " ++ b.flaw.message

/--
The first bytes that are no character, from an offset on. A character begun before it is
given with the offset and the value of its first byte.
-/
def badBytesFrom? (offset : Nat) : Option (Pending × Nat × Nat) → List UInt8 → Option BadBytes
  | none, [] => none
  | some (_, place, first), [] => some ⟨place, offset - place, first, .ending⟩
  | none, b :: bs =>
    match start b.toNat with
    | (_, some p) => badBytesFrom? (offset + 1) (some (p, offset, b.toNat)) bs
    | (_, none) =>
      if b.toNat < 0x80 then badBytesFrom? (offset + 1) none bs
      else some ⟨offset, 1, b.toNat, .start⟩
  | some (p, place, first), b :: bs =>
    if p.low ≤ b.toNat && b.toNat ≤ p.high then
      badBytesFrom? (offset + 1) ((step (some p) b.toNat).2.map fun p => (p, place, first)) bs
    else some ⟨place, offset - place, first, .continuation⟩

/-- The first bytes that are no character. -/
def badBytes? (bytes : List UInt8) : Option BadBytes := badBytesFrom? 0 none bytes

/-! ## Characters as bytes -/

/-- The bytes of one character. -/
def encodeChar (c : Char) : List UInt8 :=
  let n := c.toNat
  if n < 0x80 then [n.toUInt8]
  else if n < 0x800 then [(0xC0 + n / 64).toUInt8, (0x80 + n % 64).toUInt8]
  else if n < 0x10000 then
    [(0xE0 + n / 4096).toUInt8, (0x80 + n / 64 % 64).toUInt8, (0x80 + n % 64).toUInt8]
  else
    [(0xF0 + n / 262144).toUInt8, (0x80 + n / 4096 % 64).toUInt8,
     (0x80 + n / 64 % 64).toUInt8, (0x80 + n % 64).toUInt8]

/-- The bytes of a text. -/
def encode (t : Text) : List UInt8 := t.flatMap encodeChar

end LabelTemplate.Utf8

namespace LabelTemplate.Text

/-- A text with every line end (carriage return, line feed, or the pair) as one line feed. -/
def unifyNewlines : Text → Text
  | [] => []
  | '\r' :: '\n' :: cs => '\n' :: unifyNewlines cs
  | '\r' :: cs => '\n' :: unifyNewlines cs
  | c :: cs => c :: unifyNewlines cs

end LabelTemplate.Text
