import LabelTemplate.Field.Kind
import LabelTemplate.Field.Position

/-!
# Fields

A field is an editable part of a template. It keeps what the template says next to
what the user wants: the position and the value in the template never change, they are what
the field is sorted and found again by; the current ones are edited.

Editing gives a new field and leaves the old one as it was, so whoever still holds
the old list of fields sees no change.
-/

namespace LabelTemplate

/-- What tells fields of one list apart. -/
inductive FieldId where
  /-- The running number that a field gets when it is found in a template. -/
  | found (number : Nat)
  /-- A name given from outside. -/
  | named (name : Text)
deriving DecidableEq, Repr

/-- An editable part of a template. -/
structure Field where
  /-- What tells the field apart. -/
  id : FieldId
  /-- The kind. -/
  kind : FieldKind
  /-- The position in the template. -/
  position : Position
  /-- The position after editing; absent as long as the field was never moved. -/
  currentPosition : Option Position := none
  /-- The value in the template. -/
  templateValue : Text
  /-- The value after editing. -/
  currentValue : Text
  /-- The place in the list in which fields are shown. -/
  orderIndex : Int := 0
  /-- The number of the field's statement among those of its kind. -/
  sourceOrdinal : Int := 0
  /-- The stored graphic that an image calls. -/
  imageName : Option Text := none
  /-- Whether the graphic is to be put into an exported file. -/
  embedded : Bool := false
deriving DecidableEq, Repr

namespace Field

/-- Was the value changed? -/
def isEdited (f : Field) : Bool := f.currentValue != f.templateValue

/-- The new position, if the field stands elsewhere than in the template. -/
def movedTo? (f : Field) : Option Position := f.currentPosition.filter (· != f.position)

/-- Does the field stand elsewhere than in the template? -/
def isMoved (f : Field) : Bool := f.movedTo?.isSome

/-- Does the field's statement have to be written again? -/
def isModified (f : Field) : Bool := f.isEdited || f.isMoved

/-- Where the field stands now. -/
def effectivePosition (f : Field) : Position := f.currentPosition.getD f.position

/-- The field with another value. -/
def withValue (f : Field) (value : Text) : Field := { f with currentValue := value }

/-- The field at another position. -/
def withPosition (f : Field) (position : Position) : Field :=
  { f with currentPosition := some position }

/-- The field with its graphic chosen for embedding or not; only images have one. -/
def withEmbedding (f : Field) (selected : Bool) : Field :=
  { f with embedded := selected && f.kind == .image }

end Field

end LabelTemplate
