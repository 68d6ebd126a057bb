import LabelTemplate.Text.CharTable

/-!
# Blanks

Which characters count as white space where values are trimmed and where commands
may be spaced out: the white space and the separator characters of the standard,
which takes in the information separators 1C to 1F. A line of a template may come
from any editor, so none of them is left out.
-/

namespace LabelTemplate

/-- The white space characters, as ranges of code points. -/
def blankRanges : List (Nat × Nat) :=
  [(0x09, 0x0D), (0x1C, 0x20), (0x85, 0x85), (0xA0, 0xA0), (0x1680, 0x1680),
   (0x2000, 0x200A), (0x2028, 0x2029), (0x202F, 0x202F), (0x205F, 0x205F), (0x3000, 0x3000)]

/-- Is this a white space character? -/
def isBlank (c : Char) : Bool := inRanges blankRanges c

namespace Text

/-- A text without leading and trailing white space. -/
def trim (t : Text) : Text := trimWhere isBlank t

/-- A text without trailing white space. -/
def trimEnd (t : Text) : Text := trimEndWhere isBlank t

/-- A text without leading white space. -/
def trimStart (t : Text) : Text := t.dropWhile isBlank

/-- Is there nothing but white space? -/
def blank (t : Text) : Bool := t.trim.isEmpty

end Text

end LabelTemplate
