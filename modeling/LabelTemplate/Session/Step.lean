import LabelTemplate.Session.Basic

/-!
# Steps of a session

Everything that can be done to a session, as data, so that whole courses of editing
can be talked about. A step gives a reply or fails; either way the course goes on with
the session as the step left it.
-/

namespace LabelTemplate.Session

/-- A step of a session. -/
inductive Step where
  /-- Load a template from a file of the given name. -/
  | load (raw fileName : Text)
  /-- Give a field another value. -/
  | updateValue (id : FieldId) (value : Text)
  /-- Move a field. -/
  | updatePosition (id : FieldId) (position : Checked Position)
  /-- Choose whether the graphic of an image goes into an exported file. -/
  | setEmbedding (id : FieldId) (selected : Bool)
  /-- Change measures of the label; the changes are what they make of a label, or its faults. -/
  | updateLabel (change : Label → Checked Label)
  /-- Give the template another file name. -/
  | rename (fileName : Text)
  /-- Look at a field. -/
  | field (id : FieldId)
  /-- Look at all fields. -/
  | fields
  /-- Generate the document. -/
  | generate
  /-- Build the document for the render service. -/
  | preview
  /-- Build the file to be delivered. -/
  | exportFile

/-- What a step gives back. -/
inductive Reply where
  /-- The fields of the template. -/
  | fields (fields : List Field)
  /-- A field. -/
  | field (f : Field)
  /-- The measures of the label. -/
  | label (l : Label)
  /-- The name of the exported file. -/
  | fileName (name : Text)
  /-- The generated document. -/
  | generation (g : Generation)
  /-- The document for the render service. -/
  | document (t : Text)
  /-- The file to be delivered. -/
  | file (e : Export)

/-- A step as an operation: it gives a reply, and what was passed over. -/
def operation : Step → Operation (Reply × List Warning)
  | .load raw fileName => do
    modify (·.load raw fileName)
    let s ← get
    pure (.fields s.fields, s.loadWarnings)
  | .updateValue id value => do
    let f ← updateValue id value
    pure (.field f, [])
  | .updatePosition id position => do
    let f ← updatePosition id position
    pure (.field f, [])
  | .setEmbedding id selected => do
    let f ← setEmbedding id selected
    pure (.field f, [])
  | .updateLabel change => do
    let label ← updateLabel change
    pure (.label label, [])
  | .rename fileName => do
    modify fun s => { s with fileName := fileName }
    pure (.fileName (← get).exportFileName, [])
  | .field id => do
    let f ← field id
    pure (.field f, [])
  | .fields => do
    pure (.fields (← get).fields, [])
  | .generate => do
    let s ← get
    pure (.generation s.generate, s.generateWarnings)
  | .preview => do
    let s ← get
    pure (.document s.previewDocument, s.generateWarnings)
  | .exportFile => do
    let s ← get
    pure (.file s.exportFile, s.exportWarnings)

/-- Takes a step: what comes of it, and the session as it leaves it. -/
def take (s : Session) (st : Step) : Except Error (Reply × List Warning) × Session :=
  (operation st).run s

/-- The session after a step. -/
def after (s : Session) (st : Step) : Session := (s.take st).2

/-- The session after a course of steps. -/
def afterAll (s : Session) (steps : List Step) : Session := steps.foldl after s

end LabelTemplate.Session
