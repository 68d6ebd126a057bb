import LabelTemplate.Cleaning
import LabelTemplate.Definitions
import LabelTemplate.Field.Basic

/-!
# The document for the render service

The render service starts with an empty memory, so the document that it gets has to
store all graphics that it calls. The definitions inside the generated document are
taken out, and all captured ones are put before the first format, each under the
current name of the image that calls it.
-/

namespace LabelTemplate.PreviewDocument

/-- The current names of the graphics that images call; of two images the later one counts. -/
def currentNames (fields : List Field) : Definitions.Renaming :=
  fields.foldl (fun names f =>
    match f.kind, f.imageName with
    | .image, some old =>
      if old.isEmpty then names else names.filter (·.1 != old) ++ [(old, f.currentValue)]
    | _, _ => names) []

/-- The document for the render service; without captured definitions the document itself. -/
def build (document : Text) (definitions : Definitions) (fields : List Field) : Text :=
  if document.isEmpty || !definitions.present then document
  else
    let bare := Cleaning.stripDefinitions document
    let stored := definitions.renamed (currentNames fields) ++ ['\n']
    match Text.cut? Command.formatStart bare with
    | none => stored ++ bare
    | some (before, behind) => before ++ stored ++ Command.formatStart ++ behind

end LabelTemplate.PreviewDocument
