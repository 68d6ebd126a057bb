import LabelTemplate.Foreign
import LabelTemplate.Settings.Basic
import LabelTemplate.Settings.Node

/-!
# What settings are made with

Parsing a settings file, building a section from values under keys and putting settings together
from their sections and the environment is left to code from elsewhere. A toolkit is that code, as
far as it is used here; nothing in it is known but what is assumed where it is used.
-/

namespace LabelTemplate.Settings

/-- What settings are made with. -/
structure Toolkit where
  /-- Parses the text of a settings file. -/
  load : Text → Except ForeignError Node
  /-- Builds a section from values under its keys. -/
  build : (k : Section) → List (Text × Value) → Except ForeignError k.Content
  /-- Puts settings together from the environment and from sections that were built before. -/
  assemble : List (Text × Text) → ((k : Section) → Option k.Content) → Except ForeignError Settings

end LabelTemplate.Settings
