import LabelTemplate.CommandLine.Invocation
import LabelTemplate.CommandLine.Surroundings
import LabelTemplate.Compilation
import LabelTemplate.Field.Listing
import LabelTemplate.Files.Store
import LabelTemplate.Session.Step
import LabelTemplate.Settings.Source

/-!
# What an invocation comes to

Carrying out a request reads files and gives a verdict: something to show, a refusal,
or a file to write. Nothing is written on the way, so whatever goes wrong until then leaves
all files as they were.

Edits are made in a session. Their field numbers are all looked up in the list of the
loaded template; the first one that is not there is refused.
-/

namespace LabelTemplate.CommandLine

/-- Why a request cannot be carried out. -/
inductive Failure where
  /-- A file cannot be read or written. -/
  | file (path : Path) (cause : FileError)
  /-- The settings cannot be read. -/
  | settings (cause : Settings.SourceError)
  /-- There is no such level of events. -/
  | unknownLevel (level : Text)
  /-- A derived name cannot be the name of a file. -/
  | badFileName (name : Text)
  /-- Something cannot be written or shown. -/
  | foreign (cause : ForeignError)

/-- The wording of a file error. -/
def fileMessage (cause : FileError) (path : Path) : String :=
  let what := match cause with
    | .notFound => "[Errno 2] No such file or directory: "
    | .notFolder => "[Errno 20] Not a directory: "
    | .isFolder => "[Errno 21] Is a directory: "
  what ++ String.ofList (Quoted.quote path.text)

/-- The wording of a failure. -/
def Failure.message : Failure → String
  | .file path cause => fileMessage cause path
  | .settings cause => cause.message
  | .unknownLevel level => "Unknown level: " ++ String.ofList (Quoted.quote level)
  | .badFileName name => "Invalid name " ++ String.ofList (Quoted.quote name)
  | .foreign cause => cause.message

/-- What a request comes to. -/
inductive Verdict where
  /-- Something to show. -/
  | shows (t : Text)
  /-- The request is refused, with an exit code and the reason. -/
  | refuses (code : Nat) (reason : Text)
  /-- A file to write. -/
  | writes (path : Path) (content : Text)
deriving DecidableEq, Repr

namespace Verdict

/-- Reads the file at a path as text. -/
def readText (read : FileReader) (path : Path) : Except Failure Text :=
  match read path with
  | .ok bytes => .ok (Text.unifyNewlines (Utf8.decode bytes))
  | .error cause => .error (.file path cause)

/-- The path of the usual settings file. -/
def usualSettings : Path := Path.ofText "config/zpl_editor.yaml".toList

/-- The settings of a run: those of the settings file or, without one, of the environment. -/
def settingsOf (around : Surroundings) (read : FileReader) (file : Option Text) :
    Except Failure Settings := do
  let path := (file.map Path.ofText).getD usualSettings
  let settings ← match read path with
    | .ok bytes => (Settings.ofFile around.toolkit around.environment bytes).mapError .settings
    | .error .isFolder => throw (.file path .isFolder)
    | .error _ => (Settings.ofEnvironment around.toolkit around.environment).mapError .settings
  if settings.logLevelKnown then pure settings else throw (.unknownLevel settings.logLevel)

/-- A session with the template at a path. -/
def open? (read : FileReader) (settings : Settings) (path : Path) : Except Failure Session := do
  let raw ← readText read path
  pure (({ settings := settings } : Session).load raw path.name)

/-- An edit that is addressed by the number of its field. -/
abbrev NumberedEdit := Int × (FieldId → Session.Step)

/-- The edits of a request, in the order in which they are made. -/
def editsOf (request : ExportRequest) : List NumberedEdit :=
  request.assignments.map (fun a => (a.number, fun id => .updateValue id a.value))
    ++ request.moves.map (fun m => (m.number, fun id => .updatePosition id (.accepted m.position)))
    ++ request.embeds.map (fun n => (n, fun id => .setEmbedding id true))

/-- The name of the field with a number. -/
def numbered? (s : Session) (number : Int) : Option FieldId :=
  (s.fields.find? (·.orderIndex == number)).map Field.id

/-- The steps of some edits; if there are fields missing, the first missing number. -/
def stepsOf (s : Session) : List NumberedEdit → Except Int (List Session.Step)
  | [] => .ok []
  | (number, edit) :: edits =>
    match numbered? s number with
    | none => .error number
    | some id => (stepsOf s edits).map (edit id :: ·)

/-- The file to write: the given one, or one of the given name beside the template. -/
def target (out : Option Text) (template : Path) (name : Text) : Except Failure Path :=
  match out with
  | some path => .ok (Path.ofText path)
  | none =>
    match template.beside? name with
    | some path => .ok path
    | none => .error (.badFileName name)

/-- How the user is told of a missing field. -/
def noSuchField (number : Int) : Text := "字段序号不存在: ".toList ++ Text.ofInt number

/-- What stands for the reason if there is nothing to deliver and no message says why. -/
def noReason : Text := "None".toList

/-- Edits fields and gives the file to be delivered. -/
def ofExport (read : FileReader) (settings : Settings) (template : Path)
    (request : ExportRequest) : Except Failure Verdict := do
  let session ← open? read settings template
  match stepsOf session (editsOf request) with
  | .error number => pure (.refuses 2 (noSuchField number))
  | .ok steps =>
    let delivered := (session.afterAll steps).exportFile
    if delivered.ok then
      let path ← target request.out template delivered.fileName
      pure (.writes path delivered.content)
    else pure (.refuses 1 (delivered.message.getD noReason))

/-- The path of a file with graphics and the name to call them by. -/
def splitImage (given : Text) : Text × Text :=
  (Text.partitionLast? '=' given).getD (given, [])

/-- Reads a file with graphics. -/
def readSource (read : FileReader) (given : Text) : Except Failure Compilation.Source := do
  let (written, name) := splitImage given
  let path := Path.ofText written
  let content ← readText read path
  pure { fileName := path.name, content := content, imageName := name }

/-- Appends the graphics of other files. -/
def ofCompile (read : FileReader) (settings : Settings) (template : Path)
    (request : CompileRequest) : Except Failure Verdict := do
  let sources ← request.images.mapM (readSource read)
  let content ← readText read template
  match Compilation.compile settings.naming.compiledStart template.name content sources
      request.comment with
  | .error e => pure (.refuses 1 e.message.toList)
  | .ok compiled =>
    let path ← target request.out template compiled.fileName
    pure (.writes path compiled.content)

/-- Lists the fields of a template. -/
def ofFields (around : Surroundings) (read : FileReader) (settings : Settings) (template : Path)
    (structured : Bool) : Except Failure Verdict := do
  let session ← open? read settings template
  pure (.shows (if structured then Field.dataText around.idText session.fields
    else Field.lines session.fields))

/-- Carries out an invocation. -/
def ofInvocation (around : Surroundings) (read : FileReader) (i : Invocation) :
    Except Failure Verdict := do
  let settings ← settingsOf around read i.settingsFile
  let template := Path.ofText i.template
  match i.request with
  | .fields structured => ofFields around read settings template structured
  | .exportFile request => ofExport read settings template request
  | .compile request => ofCompile read settings template request

end Verdict

end LabelTemplate.CommandLine
