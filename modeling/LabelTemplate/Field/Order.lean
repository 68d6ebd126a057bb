import LabelTemplate.Field.Basic

/-!
# The order in which fields are shown

Fields are grouped by kind, bar codes first, then images, then texts. Within a kind
they go from top to bottom and on one height from left to right, by the position in
the template; fields at one place stay in the order in which they were found. The
place in the result becomes the field's `orderIndex`. Moving a field changes nothing
in this order, so its number stays good while it is edited.
-/

namespace LabelTemplate

namespace Position

/-- Does the first position come before the second, or are they the same? Higher up comes first. -/
def readsBefore (p q : Position) : Bool := p.y < q.y || (p.y = q.y && p.x ≤ q.x)

end Position

namespace Field

/-- Fields of one kind from top to bottom and from left to right. -/
def sortByPlace (fields : List Field) : List Field :=
  fields.mergeSort fun f g => f.position.readsBefore g.position

/-- The fields with their places in the list as numbers. -/
def number (fields : List Field) : List Field :=
  fields.zipIdx.map fun (f, place) => { f with orderIndex := place }

/-- The fields in the order in which they are shown, numbered. -/
def order (fields : List Field) : List Field :=
  number <| FieldKind.displayOrder.flatMap fun kind =>
    sortByPlace (fields.filter (·.kind == kind))

end Field

end LabelTemplate
