import LabelTemplate.Field.Basic
import LabelTemplate.Warning

/-!
# Finding the fields of a template

Every editable record with readable coordinates gives one field, whose value,
in the template and now, is the value as written. The field remembers the number of its
statement, so that it finds it again even if other fields have the same value. A
record whose coordinates cannot be read gives a warning and no field.
-/

namespace LabelTemplate

namespace Extraction

/-- The field of a record at a known position. -/
def fieldOf (id : FieldId) (r : Record) (position : Position) : Field where
  id := id
  kind := r.kind
  position := position
  templateValue := r.value
  currentValue := r.value
  sourceOrdinal := r.ordinal
  imageName := if r.kind = .image then some r.value else none

/-- The editable records with readable coordinates, each with its position. -/
def placedRecords (document : Text) : List (Record × Position) :=
  (editableRecords document).filterMap fun r => r.position?.map fun p => (r, p)

/-- The fields of a template, in the order in which they are found. -/
def fields (document : Text) : List Field :=
  (placedRecords document).zipIdx.map fun ((r, p), number) => fieldOf (.found number) r p

/-- One warning for each editable record whose coordinates cannot be read. -/
def warnings (document : Text) : List Warning :=
  (editableRecords document).filterMap fun r =>
    if r.position?.isNone then some (.unreadableCoordinates r) else none

end Extraction

end LabelTemplate
