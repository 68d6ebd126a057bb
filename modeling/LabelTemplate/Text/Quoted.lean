import LabelTemplate.Text.Printable

/-!
# Quoted texts

Messages show a piece of input between quotes, so that its ends and the characters
that cannot be seen are plain. The quote is the single one, unless the text has
single quotes and no double one. The backslash and the quote in use are written
with a backslash before them, line feed, carriage return and tab as `\n`, `\r` and
`\t`, and any other character that is not shown as it is by its code point.
-/

namespace LabelTemplate

namespace Text

/-- The lower case hexadecimal digits of a number, at least `width` of them. -/
def hex (width n : Nat) : Text := padStart width '0' (Nat.toDigits 16 n)

end Text

namespace Quoted

/-- The quote around a text. -/
def quoteFor (t : Text) : Char :=
  if t.any (· == '\'') && !t.any (· == '"') then '"' else '\''

/-- A character by its code point. -/
def escapeCode (c : Char) : Text :=
  if c.toNat < 0x100 then '\\' :: 'x' :: Text.hex 2 c.toNat
  else if c.toNat < 0x10000 then '\\' :: 'u' :: Text.hex 4 c.toNat
  else '\\' :: 'U' :: Text.hex 8 c.toNat

/-- One character inside the quotes. -/
def escapeChar (quote c : Char) : Text :=
  if c = quote || c = '\\' then ['\\', c]
  else if c = '\n' then ['\\', 'n']
  else if c = '\r' then ['\\', 'r']
  else if c = '\t' then ['\\', 't']
  else if isPrintable c then [c]
  else escapeCode c

/-- The quoted form of a text. -/
def quote (t : Text) : Text :=
  let q := quoteFor t
  q :: t.flatMap (escapeChar q) ++ [q]

end Quoted

end LabelTemplate
