import LabelTemplate.Text.Basic

/-!
# Kinds of fields

A template has three kinds of editable fields. The order in which fields are shown
puts bar codes first, then images, then texts.
-/

namespace LabelTemplate

/-- The kind of an editable field. -/
inductive FieldKind where
  /-- A call of a stored graphic. -/
  | image
  /-- A bar code. -/
  | barcode
  /-- A printed text. -/
  | text
deriving DecidableEq, Repr

namespace FieldKind

/-- All kinds, in the order in which fields are shown. -/
def displayOrder : List FieldKind := [.barcode, .image, .text]

/-- All kinds, in the order in which a template is searched for them. -/
def searchOrder : List FieldKind := [.image, .barcode, .text]

/-- The name of a kind. -/
def name : FieldKind → String
  | .image => "image"
  | .barcode => "barcode"
  | .text => "text"

/-- The kind of a given name. -/
def ofName? (name : Text) : Option FieldKind :=
  searchOrder.find? fun kind => kind.name.toList == name

end FieldKind

end LabelTemplate
