import LabelTemplate.Cleaning
import LabelTemplate.Definitions
import LabelTemplate.Field.Basic
import LabelTemplate.Warning

/-!
# Embedding graphics

An exported file can carry the graphics that it calls. Each image chosen for
embedding contributes the captured definition of its graphic under the image's
current name, without format commands, unless the document defines that name already.
The definitions go in as one group behind the first format start; if the command that
keeps the label image comes before the end of that format, they go in front of it.
-/

namespace LabelTemplate

/-- The first element of each group with equal keys. -/
def distinctBy {α β : Type} [BEq β] (key : α → β) : List α → List α
  | [] => []
  | a :: as => a :: (distinctBy key as).filter fun b => !(key b == key a)

namespace Embedding

/-- The name of the graphic that a field wants to be embedded. -/
def wanted? (f : Field) : Option Text :=
  if f.kind = .image && f.embedded then f.imageName.filter (!·.isEmpty) else none

/-- The fields that want a graphic to be embedded, each once, with the name of the graphic. -/
def requests (fields : List Field) : List (Field × Text) :=
  distinctBy (·.1.id) <| fields.filterMap fun f => (wanted? f).map fun name => (f, name)

/-- Does the document define a graphic of this name? -/
def defines (document name : Text) : Bool := Text.contains (Definitions.opening name) document

/-- A definition under a new name; `old` is the name that it has, in any letter case. -/
def rename (definition old new : Text) : Text :=
  Command.storeGraphic ++ new ++ definition.drop (Command.storeGraphic.length + old.length)

/-- A text without format commands. -/
def withoutFormat (t : Text) : Text :=
  Scan.replace (fun u => if Cleaning.atFormatCommand u then some ((), 3) else none) (fun _ => []) t

/-- What a request comes to. -/
inductive Answer where
  /-- The document defines the name already. -/
  | defined
  /-- The graphic was never captured. -/
  | notFound (name : Text)
  /-- The definition to put in. -/
  | block (text : Text)
deriving DecidableEq, Repr

/-- The answer to a request. -/
def answer (document : Text) (definitions : Definitions) (f : Field) (name : Text) : Answer :=
  if defines document f.currentValue then .defined
  else match definitions.lookup name with
    | [] => .notFound name
    | definition => .block (withoutFormat (rename definition name f.currentValue)).trim

/-- The answers to all requests. -/
def answers (document : Text) (definitions : Definitions) (fields : List Field) : List Answer :=
  (requests fields).map fun (f, name) => answer document definitions f name

/-- The definitions to put in, each once. -/
def blocks (document : Text) (definitions : Definitions) (fields : List Field) : List Text :=
  distinctBy id <| (answers document definitions fields).filterMap fun
    | .block text => some text
    | .defined | .notFound _ => none

/-- What stands before the place where definitions go in, and what comes behind it. -/
def insertionPoint? (document : Text) : Option (Text × Text) := do
  let (before, behind) ← Text.cut? Command.formatStart document
  let front := before ++ Command.formatStart
  match Text.cut? Command.keepImage behind with
  | none => pure (front, behind)
  | some (setup, _) =>
    match Text.find? Command.formatEnd behind with
    | some close =>
      if setup.length < close then pure (front ++ setup, behind.drop setup.length)
      else pure (front, behind)
    | none => pure (front ++ setup, behind.drop setup.length)

/-- The definitions as they are put in, each on lines of its own. -/
def group (definitions : List Text) : Text := '\n' :: definitions.flatMap (· ++ ['\n'])

/-- The document with the wanted graphics. -/
def embed (document : Text) (definitions : Definitions) (fields : List Field) : Text :=
  match blocks document definitions fields, insertionPoint? document with
  | [], _ | _, none => document
  | found, some (front, back) => front ++ group found ++ back

/-- What was passed over in embedding. -/
def warnings (document : Text) (definitions : Definitions) (fields : List Field) : List Warning :=
  ((answers document definitions fields).filterMap fun
    | .notFound name => some (.definitionNotFound name)
    | .defined | .block _ => none)
  ++ if !(blocks document definitions fields).isEmpty && (insertionPoint? document).isNone
    then [.noFormatToEmbedIn] else []

/-- The document cleaned for delivery, with the wanted graphics. -/
def cleanAndEmbed (document : Text) (definitions : Definitions) (fields : List Field) : Text :=
  embed (Cleaning.clean document) definitions fields

end Embedding

end LabelTemplate
