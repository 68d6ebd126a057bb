import LabelTemplate.Numeral.General

/-!
# Labels

The physical measures of a label, as the render service wants to know them: the
resolution of the printer and the size in inches. They are passed on as they are;
whether a size makes sense is for the service to say.
-/

namespace LabelTemplate

/-- The measures of a label. -/
structure Label where
  /-- The resolution in dots per millimetre. -/
  dpmm : Int := 8
  /-- The width in inches. -/
  width : Binary64 := Binary64.ofInt 5
  /-- The height in inches. -/
  height : Binary64 := Binary64.ofInt 6
deriving DecidableEq, Repr

/-- The size as it is written in an address: width and height with an x between them. -/
def Label.sizeText (l : Label) : Text := l.width.shortText ++ 'x' :: l.height.shortText

end LabelTemplate
