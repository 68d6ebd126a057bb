import LabelTemplate.CommandLine.Reading

/-!
# Invocations

What a command line asks for. The whole line is read first; what stands behind the
name of a command is then read in the form of that command. Words left over in either
of them make the line as a whole wrong, but only if nothing else is.

An option that is given several times counts with its last value, except those that
edit fields or name files with graphics: these add up in the order of the line.
-/

namespace LabelTemplate.CommandLine

/-- A request to edit fields and write the file to be delivered. -/
structure ExportRequest where
  /-- The new values. -/
  assignments : List Assignment := []
  /-- The new positions. -/
  moves : List Move := []
  /-- The numbers of the fields whose graphics are to be embedded. -/
  embeds : List Int := []
  /-- The file to write, if it is not the one beside the template. -/
  out : Option Text := none
deriving DecidableEq, Repr

/-- A request to append the graphics of other files. -/
structure CompileRequest where
  /-- The files, each with the name that its graphics are to be called by. -/
  images : List Text := []
  /-- The comment. -/
  comment : Text := []
  /-- The file to write, if it is not the one beside the template. -/
  out : Option Text := none
deriving DecidableEq, Repr

/-- What is asked for. -/
inductive Request where
  /-- List the fields, perhaps as structured data. -/
  | fields (structured : Bool)
  /-- Edit fields and write the file to be delivered. -/
  | exportFile (request : ExportRequest)
  /-- Append the graphics of other files. -/
  | compile (request : CompileRequest)
deriving DecidableEq, Repr

/-- A command line that has been read. -/
structure Invocation where
  /-- The settings file, if it is not the usual one. -/
  settingsFile : Option Text
  /-- The path of the template. -/
  template : Text
  /-- What is asked for. -/
  request : Request
deriving DecidableEq, Repr

/-- A value that counts as absent if it is empty. -/
def unlessEmpty (value : Text) : Option Text := if value.isEmpty then none else some value

/-- What the options of the whole line bring about. -/
def lineEffect (_ : Switch) (value : Text) (_ : Option Text) : Except Refusal (Option Text) :=
  .ok (unlessEmpty value)

/-- The refusal of an edit. -/
def EditError.refusal (form : EditForm) : EditError → Refusal
  | .malformed .. => .wrongForm form
  | .notNumber .. => .unreadableEdit form

namespace Request

/-- What an option of an export brings about. -/
def exportEffect (s : Switch) (value : Text) (request : ExportRequest) :
    Except Refusal ExportRequest :=
  match s with
  | .set => do
    let a ← (Assignment.read value).mapError (·.refusal .assignment)
    pure { request with assignments := request.assignments ++ [a] }
  | .move => do
    let m ← (Move.read value).mapError (·.refusal .move)
    pure { request with moves := request.moves ++ [m] }
  | .embed => do
    let n ← (Integer.read value).mapError fun _ => .notNumber
    pure { request with embeds := request.embeds ++ [n] }
  | .out => pure { request with out := unlessEmpty value }
  | _ => pure request

/-- What an option of a compilation brings about. -/
def compileEffect (s : Switch) (value : Text) (request : CompileRequest) :
    Except Refusal CompileRequest :=
  match s with
  | .image => pure { request with images := request.images ++ [value] }
  | .comment => pure { request with comment := value }
  | .out => pure { request with out := unlessEmpty value }
  | _ => pure request

/-- What an option of a request brings about. -/
def effect (s : Switch) (value : Text) : Request → Except Refusal Request
  | .fields _ => .ok (.fields true)
  | .exportFile request => (exportEffect s value request).map .exportFile
  | .compile request => (compileEffect s value request).map .compile

/-- The request of a command without any options. -/
def plain : CommandName → Request
  | .fields => .fields false
  | .exportFile => .exportFile {}
  | .compile => .compile {}

end Request

/-- Why there is no invocation: reading ended early, in the line or behind a command. -/
structure Stop where
  /-- The command; absent for the whole line. -/
  command : Option CommandName
  /-- Why reading ended. -/
  halt : Halt
deriving DecidableEq, Repr

namespace Invocation

/-- Reads words in the light of a form; an early end says where it happened. -/
def readForm {σ : Type} (form : Form) (effect : Switch → Text → σ → Except Refusal σ) (start : σ)
    (words : List Text) : Except Stop (Reading σ) :=
  (Reading.ofWords form effect start words).mapError fun halt => ⟨form.command, halt⟩

/-- Reads a command line. -/
def read (words : List Text) : Except Stop Invocation := do
  let line ← readForm Form.line lineEffect none words
  let name := line.operand.headD []
  match CommandName.ofText? name with
  | none => throw ⟨none, .misuse (.unknownCommand name)⟩
  | some command =>
    let behind ←
      readForm (Form.ofCommand command) Request.effect (Request.plain command) line.operand.tail
    match line.leftOver ++ behind.leftOver with
    | [] =>
      pure { settingsFile := line.state, template := behind.operand.headD [],
             request := behind.state }
    | words => throw ⟨none, .misuse (.leftOver words)⟩

end Invocation

end LabelTemplate.CommandLine
