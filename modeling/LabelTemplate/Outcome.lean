import LabelTemplate.Text.Basic

/-!
# Outcomes

What generating, exporting and previewing a template give back. That there is
nothing to do is an outcome with a message for the user and not a failure; whether
an outcome can be used is said by `ok`.
-/

namespace LabelTemplate

/-- A generated document, or a message why there is none. -/
structure Generation where
  /-- The document. -/
  content : Text := []
  /-- Why there is no document. -/
  message : Option Text := none
deriving DecidableEq, Repr

/-- A file to be delivered, or a message why there is none. -/
structure Export where
  /-- The name of the file. -/
  fileName : Text := []
  /-- What the file holds. -/
  content : Text := []
  /-- Why there is no file. -/
  message : Option Text := none
deriving DecidableEq, Repr

/-- The picture of a label, or the reason why the service gave none. -/
structure Preview where
  /-- Which request it answers. -/
  generation : Int
  /-- The bytes of the picture. -/
  image : Option (List UInt8) := none
  /-- Why there is no picture. -/
  error : Option Text := none
deriving DecidableEq, Repr

/-- Is there a document? -/
def Generation.ok (g : Generation) : Bool := !g.content.isEmpty

/-- Is there a file? -/
def Export.ok (e : Export) : Bool := !e.content.isEmpty

/-- Is there a picture and no error? -/
def Preview.ok (p : Preview) : Bool := p.image.isSome && p.error.isNone

end LabelTemplate
