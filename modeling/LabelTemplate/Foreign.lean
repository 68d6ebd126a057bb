/-!
# Failures of code from elsewhere

Settings files are parsed, settings are put together and requests are sent by code from
elsewhere, which fails in its own ways. Of such a failure only what a user gets to see
is known: its kind and its wording.
-/

namespace LabelTemplate

/-- A failure of code from elsewhere. -/
structure ForeignError where
  /-- The name of its kind. -/
  kind : String
  /-- Its wording. -/
  message : String
deriving DecidableEq, Repr

end LabelTemplate
