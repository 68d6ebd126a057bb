import LabelTemplate.Settings.Sections

/-!
# Where settings come from

Settings are put together from sections and the environment. A settings file, if there is one,
gives every section, also those that it does not name; without a file no section is given.
-/

namespace LabelTemplate.Settings

/-- The settings of a settings file, given as bytes. -/
def ofFile (t : Toolkit) (environment : List (Text × Text)) (bytes : List UInt8) :
    Except SourceError Settings := do
  if let some bad := Utf8.badBytes? bytes then throw (.badBytes bad)
  let document ← (t.load (Utf8.decode bytes).unifyNewlines).mapError .foreign
  let sections ← sectionsOf t document
  (t.assemble environment fun k => some (sections.part k)).mapError .foreign

/-- The settings without a settings file. -/
def ofEnvironment (t : Toolkit) (environment : List (Text × Text)) : Except SourceError Settings :=
  (t.assemble environment fun _ => none).mapError .foreign

end LabelTemplate.Settings
