import LabelTemplate.Settings.Toolkit
import LabelTemplate.Text.Utf8

/-!
# Settings from a file

The settings stand in the group `runtime_options`, a section a group. A setting may be
written as the value itself or as a group with a `default`, next to which the file can
describe the setting. A group without a `default` sets nothing, and a section that is
absent, empty or zero has its defaults.
-/

namespace LabelTemplate.Settings

/-- Why there are no settings. -/
inductive SourceError where
  /-- The bytes of the file are no text. -/
  | badBytes (cause : Utf8.BadBytes)
  /-- Something that should hold values under keys does not: a section, or more. -/
  | notAGroup (isSection : Bool) (node : Node)
  /-- A key of a section is no text. -/
  | keyNotText
  /-- The file cannot be parsed, or no settings can be made of it or of the environment. -/
  | foreign (cause : ForeignError)

/-- The wording of an error. -/
def SourceError.message : SourceError → String
  | .badBytes cause => cause.message
  | .notAGroup isSection node =>
    "'" ++ node.shapeName ++ "' object has no attribute '"
      ++ (if isSection then "items" else "get") ++ "'"
  | .keyNotText => "keywords must be strings"
  | .foreign cause => cause.message

/-- The entries of a group. -/
def groupEntries (isSection : Bool) : Node → Except SourceError (List (Value × Node))
  | .group entries => .ok entries
  | node => .error (.notAGroup isSection node)

/-- The settings as written in a section, each under its key. -/
def flattened (entries : List (Value × Node)) : List (Value × Value) :=
  (Node.lasting entries).filterMap fun entry => entry.2.setting?.map fun v => (entry.1, v)

/-- A setting under its name. -/
def named : Value × Value → Except SourceError (Text × Value)
  | (.text name, v) => .ok (name, v)
  | _ => .error .keyNotText

/-- Reads one section of a file. -/
def readSection (t : Toolkit) (options : List (Value × Node)) (k : Section) :
    Except SourceError k.Content := do
  let written := (Node.lookup? k.name.toList options).getD (.single .null)
  let entries ← if written.isVoid then pure [] else groupEntries true written
  let settings ← (flattened entries).mapM named
  (t.build k settings).mapError .foreign

/-- The sections that a file holds, all of them; the first faulty one is reported. -/
def sectionsOf (t : Toolkit) (document : Node) : Except SourceError Settings := do
  let entries ← if document.isVoid then pure [] else groupEntries false document
  let options ← groupEntries false
    ((Node.lookup? "runtime_options".toList entries).getD (.group []))
  pure {
    label := ← readSection t options .label
    render := ← readSection t options .render
    debounceMs := ← readSection t options .preview
    remap := ← readSection t options .encoding
    uppercaseCodes := ← readSection t options .editing
    naming := ← readSection t options .naming
    logLevel := ← readSection t options .logging }

end LabelTemplate.Settings
