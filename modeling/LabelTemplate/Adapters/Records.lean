import LabelTemplate.Adapters.Conversion
import LabelTemplate.Compilation
import LabelTemplate.Field.Basic
import LabelTemplate.Settings.Basic

/-!
# Records from values

Fields, measures of a label, outcomes and sections of settings may be given as values under keys,
for instance by an editor that kept a list of fields. All parts are checked, in the order in which
they are declared, and what is not given has its default. Keys that a record does not know are
passed over.
-/

namespace LabelTemplate

/-! ## Fields -/

/-- Reads a position. -/
def Position.ofValue (v : Value) : Checked Position :=
  v.asRecord fun entries =>
    Position.mk <$> Checked.required Value.asInteger "x" entries
      <*> Checked.required Value.asInteger "y" entries

/-- Reads a kind from its name. -/
def FieldKind.ofValue : Value → Checked FieldKind
  | .text name =>
    match FieldKind.ofName? name with
    | some kind => .accepted kind
    | none => .fault .unknownKind
  | _ => .fault .unknownKind

/-- Reads the name that tells a field apart. -/
def FieldId.ofValue (v : Value) : Checked FieldId := v.asText.map .named

/-- Reads a field; `absentId` names a field that comes without a name. -/
def Field.ofEntries (absentId : FieldId) (entries : List (Text × Value)) : Checked Field :=
  Field.mk
    <$> Checked.optional FieldId.ofValue "id" absentId entries
    <*> Checked.required FieldKind.ofValue "type" entries
    <*> Checked.required Position.ofValue "position" entries
    <*> Checked.optional (Value.asOptional Position.ofValue) "current_position" none entries
    <*> Checked.required Value.asText "original_value" entries
    <*> Checked.required Value.asText "current_value" entries
    <*> Checked.optional Value.asInteger "order_index" 0 entries
    <*> Checked.optional Value.asInteger "source_ordinal" 0 entries
    <*> Checked.optional (Value.asOptional Value.asText) "image_name" none entries
    <*> Checked.optional Value.asBool "is_selected_for_embedding" false entries

/-! ## Outcomes -/

/-- Reads bytes from the text that they encode. -/
def Value.asBytes : Value → Checked (List UInt8)
  | .bytes b => .accepted b
  | v => v.asText.map Utf8.encode

/-- Reads a generated document. -/
def Generation.ofEntries (entries : List (Text × Value)) : Checked Generation :=
  Generation.mk
    <$> Checked.optional Value.asText "content" [] entries
    <*> Checked.optional (Value.asOptional Value.asText) "message" none entries

/-- Reads a file to be delivered. -/
def Export.ofEntries (entries : List (Text × Value)) : Checked Export :=
  Export.mk
    <$> Checked.optional Value.asText "file_name" [] entries
    <*> Checked.optional Value.asText "content" [] entries
    <*> Checked.optional (Value.asOptional Value.asText) "message" none entries

/-- Reads the picture of a label. -/
def Preview.ofEntries (entries : List (Text × Value)) : Checked Preview :=
  Preview.mk
    <$> Checked.required Value.asInteger "generation" entries
    <*> Checked.optional (Value.asOptional Value.asBytes) "image" none entries
    <*> Checked.optional (Value.asOptional Value.asText) "error" none entries

/-- Reads a file whose graphics are to be appended. -/
def Compilation.Source.ofEntries (entries : List (Text × Value)) : Checked Compilation.Source :=
  Compilation.Source.mk
    <$> Checked.optional Value.asText "file_name" [] entries
    <*> Checked.optional Value.asText "content" [] entries
    <*> Checked.optional Value.asText "image_name" [] entries

/-! ## Settings -/

/-- Reads the measures of a label; those not given are taken from `absent`. -/
def Label.ofEntries (absent : Label) (entries : List (Text × Value)) : Checked Label :=
  Label.mk
    <$> Checked.optional Value.asInteger "dpmm" absent.dpmm entries
    <*> Checked.optional Value.asNumber "width" absent.width entries
    <*> Checked.optional Value.asNumber "height" absent.height entries

/-- Reads how the render service is asked. -/
def RenderSettings.ofEntries (entries : List (Text × Value)) : Checked RenderSettings :=
  let absent : RenderSettings := {}
  RenderSettings.mk
    <$> Checked.optional Value.asText "base_url" absent.baseUrl entries
    <*> Checked.optional Value.asNumber "timeout_sec" absent.timeoutSec entries
    <*> Checked.optional Value.asText "accept" absent.accept entries

/-- Reads how files are named. -/
def ExportSettings.ofEntries (entries : List (Text × Value)) : Checked ExportSettings :=
  let absent : ExportSettings := {}
  ExportSettings.mk
    <$> Checked.optional Value.asText "extension" absent.extension entries
    <*> Checked.optional Value.asText "compiled_prefix" absent.compiledStart entries

end LabelTemplate
