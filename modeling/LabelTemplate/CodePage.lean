import LabelTemplate.Text.Quoted

/-!
# Writing accented letters for the printer

The printer's character set is code page 850. Letters that are not in ASCII are
written as an escape character and the two hexadecimal digits of their code, and
the statement gets a hex marker so that the printer reads the escape. The escape
character itself is written by its code too where it could be taken for the
beginning of an escape.
-/

namespace LabelTemplate.CodePage

/-- The letters that are written by their code. -/
def codes : List (Char × Nat) :=
  [('á', 0xA0), ('é', 0x82), ('í', 0xA1), ('ó', 0xA2), ('ú', 0xA3),
   ('â', 0x83), ('ê', 0x88), ('ô', 0x93), ('ã', 0xC6), ('õ', 0xE4),
   ('ç', 0x87), ('à', 0x85), ('è', 0x8A), ('ì', 0x8D), ('ò', 0x95), ('ù', 0x97),
   ('Á', 0xB5), ('É', 0x90), ('Í', 0xD6), ('Ó', 0xE0), ('Ú', 0xE9),
   ('Â', 0xB6), ('Ê', 0xD2), ('Ô', 0xE2), ('Ã', 0xC7), ('Õ', 0xE5),
   ('Ç', 0x80), ('À', 0xB7), ('È', 0xD4), ('Ì', 0xDE), ('Ò', 0xE3), ('Ù', 0xEB),
   ('°', 0xF8)]

/-- The code of a letter that is written by its code. -/
def code? (c : Char) : Option Nat := (codes.find? (·.1 == c)).map Prod.snd

/-- A character in an escaped text, the escape character itself left as it is. -/
def escapeLetter (escape : Text) (c : Char) : Text :=
  match code? c with
  | some code => escape ++ Text.hex 2 code
  | none => [c]

/-- A text with its letters escaped and the escape character left as it is. -/
def escapeLetters (escape t : Text) : Text := t.flatMap (escapeLetter escape)

/-- A character in an escaped text; the escape character goes by its code. -/
def encodeChar (escape c : Char) : Text :=
  if c = escape then escape :: Text.hex 2 escape.toNat else escapeLetter [escape] c

/-- A text with its letters and the escape character escaped. -/
def encode (escape : Char) (t : Text) : Text := t.flatMap (encodeChar escape)

/-- Why a text cannot be escaped. -/
inductive EscapeError where
  /-- Only a single character can be written by its own code. -/
  | notOneCharacter (length : Nat)
deriving DecidableEq, Repr

/-- The wording of an escape error. -/
def EscapeError.message : EscapeError → String
  | .notOneCharacter length =>
    "ord() expected a character, but string of length " ++ toString length ++ " found"

/-- A text with its letters escaped by any text; `protect` asks to escape the escape as well. -/
def encodeBy (escape : Text) (protect : Bool) (t : Text) : Except EscapeError Text :=
  if protect then
    match escape with
    | [e] => .ok (encode e t)
    | _ => .error (.notOneCharacter escape.length)
  else .ok (escapeLetters escape t)

/-- Does a written text need a hex marker? -/
def needsMarker (escape t : Text) : Bool := Text.contains escape t

end LabelTemplate.CodePage
