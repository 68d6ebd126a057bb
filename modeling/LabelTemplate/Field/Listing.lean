import LabelTemplate.Field.Basic
import LabelTemplate.Value.Json

/-!
# Lists of fields

A list of fields is shown to the user in one of two forms: a line for each field, with
its number, its kind, where it stands and what the template says there; or structured
data with everything that is known about it.

The names that tell fields apart are drawn at random for each run, so the structured
form is told how to write them.
-/

namespace LabelTemplate.Field

/-- The line of a field. -/
def line (f : Field) : Text :=
  Text.padStart 3 ' ' (Text.ofInt f.orderIndex) ++ ' ' :: ' '
    :: Text.padEnd 8 ' ' f.kind.name.toList ++ ' ' :: '(' :: f.effectivePosition.text
    ++ ')' :: ' ' :: ' ' :: f.templateValue

/-- The lines of some fields. -/
def lines (fields : List Field) : Text := fields.flatMap fun f => f.line ++ ['\n']

/-- A position as structured data. -/
def positionData (p : Position) : Json :=
  .object [("x".toList, .int p.x), ("y".toList, .int p.y)]

/-- A field as structured data. -/
def data (idText : FieldId → Text) (f : Field) : Json :=
  .object [
    ("id".toList, .text (idText f.id)),
    ("type".toList, .text f.kind.name.toList),
    ("position".toList, positionData f.position),
    ("current_position".toList, (f.currentPosition.map positionData).getD .null),
    ("original_value".toList, .text f.templateValue),
    ("current_value".toList, .text f.currentValue),
    ("order_index".toList, .int f.orderIndex),
    ("source_ordinal".toList, .int f.sourceOrdinal),
    ("image_name".toList, (f.imageName.map Json.text).getD .null),
    ("is_selected_for_embedding".toList, .bool f.embedded)]

/-- Some fields as structured data, written out. -/
def dataText (idText : FieldId → Text) (fields : List Field) : Text :=
  (Json.list (fields.map (data idText))).render 0 ++ ['\n']

end LabelTemplate.Field
