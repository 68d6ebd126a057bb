import LabelTemplate.Embedding
import LabelTemplate.Extraction
import LabelTemplate.Field.Order
import LabelTemplate.Files.Path
import LabelTemplate.Normalization
import LabelTemplate.Outcome
import LabelTemplate.Preview.Document
import LabelTemplate.Regeneration
import LabelTemplate.Settings.Basic
import LabelTemplate.Text.Upper
import LabelTemplate.Value.Check

/-!
# Editing sessions

A session holds one template: its text in normal order, the graphics that it stores
and its fields in the order in which they are shown. Loading another template replaces
all three. Editing replaces one field; generating, previewing and exporting read the
session and leave it as it is.

An operation works on the session piece by piece, and what it has done to it before it
fails stays done. That a failure leaves nothing half changed is a matter of the order in
which things are done: everything is looked up and checked before anything is put in.
-/

namespace LabelTemplate

/-- A template that is being edited. -/
structure Session where
  /-- The settings of the run. -/
  settings : Settings
  /-- The measures of the label. -/
  label : Label := settings.label
  /-- The name of the file that the template comes from. -/
  fileName : Text := []
  /-- The template in normal order. -/
  document : Text := []
  /-- The graphics that the template stores. -/
  definitions : Definitions := {}
  /-- The fields, in the order in which they are shown. -/
  fields : List Field := []
  /-- How many names of fields were given out; no name is given out twice. -/
  namesGiven : Nat := 0
deriving DecidableEq, Repr

namespace Session

/-- Why an operation of a session fails. -/
inductive Error where
  /-- No field has this name. -/
  | fieldNotFound (id : FieldId)
  /-- A given value is not of the right type. -/
  | rejected (faults : List Fault)
deriving DecidableEq, Repr

/-- The wording of an error. -/
def Error.message : Error → String
  | .fieldNotFound (.named name) => "字段不存在: " ++ String.ofList name
  | .fieldNotFound (.found number) => "字段不存在: " ++ toString number
  | .rejected faults => Fault.messages faults

/-- An operation of a session: it changes the session and gives something back, or it fails. -/
abbrev Operation (α : Type) := ExceptT Error (StateM Session) α

/-- A field that was found in a template, under a name that was not given out before. -/
def christen (s : Session) (f : Field) : Field :=
  match f.id with
  | .found number => { f with id := .found (s.namesGiven + number) }
  | .named _ => f

/-- The session with another template. -/
def load (s : Session) (raw fileName : Text) : Session :=
  let document := Normalization.normalize raw
  let found := Extraction.fields document
  { s with
    fileName := fileName
    document := document
    definitions := Definitions.capture raw
    fields := Field.order (found.map s.christen)
    namesGiven := s.namesGiven + found.length }

/-- Is a template loaded? -/
def isLoaded (s : Session) : Bool := !s.document.isEmpty

/-- The field of a given name. -/
def field (id : FieldId) : Operation Field := do
  match (← get).fields.find? (·.id == id) with
  | some f => pure f
  | none => throw (.fieldNotFound id)

/-- Puts a field in the place of the one with its name. -/
def replace (f : Field) : Operation Field := do
  modify fun s => { s with fields := s.fields.map fun g => if g.id = f.id then f else g }
  pure f

/-- A value as it is entered: codes are put into upper case if the settings say so. -/
def entered (s : Session) (kind : FieldKind) (value : Text) : Text :=
  if s.settings.uppercaseCodes && kind != .text then value.upper else value

/-- Gives a field another value. -/
def updateValue (id : FieldId) (value : Text) : Operation Field := do
  let f ← field id
  let s ← get
  replace (f.withValue (s.entered f.kind value))

/-- Moves a field. -/
def updatePosition (id : FieldId) (position : Checked Position) : Operation Field := do
  let f ← field id
  match position with
  | .accepted p => replace (f.withPosition p)
  | .rejected faults => throw (.rejected faults)

/-- Chooses whether the graphic of an image goes into an exported file. -/
def setEmbedding (id : FieldId) (selected : Bool) : Operation Field := do
  let f ← field id
  replace (f.withEmbedding selected)

/-- Changes measures of the label; the check of the changes is given by what it makes of a label. -/
def updateLabel (change : Label → Checked Label) : Operation Label := do
  match change (← get).label with
  | .accepted label =>
    modify fun s => { s with label := label }
    pure label
  | .rejected faults => throw (.rejected faults)

/-- What the user is told when there is nothing to generate. -/
def nothingToGenerate : Text := "没有已加载的模板或字段，无内容可生成".toList

/-- The document with the current values. -/
def regenerated (s : Session) : Text :=
  Regeneration.regenerate s.settings.remap s.document s.fields

/-- The document with the current values, or a message that there is none. -/
def generate (s : Session) : Generation :=
  if s.regenerated.isEmpty then { message := some nothingToGenerate }
  else { content := s.regenerated }

/-- The document for the render service; empty if there is nothing to show. -/
def previewDocument (s : Session) : Text :=
  if s.generate.ok then PreviewDocument.build s.generate.content s.definitions s.fields else []

/-- The name of the exported file. -/
def exportFileName (s : Session) : Text :=
  let stem := if s.fileName.isEmpty then "label".toList else (Path.ofText s.fileName).stem
  stem ++ s.settings.naming.extension

/-- The file to be delivered, or a message that there is none. -/
def exportFile (s : Session) : Export :=
  let generated := s.generate
  if generated.ok then
    { fileName := s.exportFileName
      content := Embedding.cleanAndEmbed generated.content s.definitions s.fields }
  else { message := generated.message }

/-- What was passed over in loading the template. -/
def loadWarnings (s : Session) : List Warning := Extraction.warnings s.document

/-- What was passed over in generating. -/
def generateWarnings (s : Session) : List Warning :=
  Regeneration.warnings s.settings.remap s.document s.fields

/-- What was passed over in exporting. -/
def exportWarnings (s : Session) : List Warning :=
  s.generateWarnings ++
    if s.generate.ok then
      Embedding.warnings (Cleaning.clean s.generate.content) s.definitions s.fields
    else []

end Session

end LabelTemplate
