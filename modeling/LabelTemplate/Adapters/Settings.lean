import LabelTemplate.Adapters.JsonReader
import LabelTemplate.Adapters.Records
import LabelTemplate.Adapters.Yaml.Document
import LabelTemplate.Settings.Toolkit

/-!
# Settings from given values and the environment

Settings are put together from values that the caller gives and from environment variables;
inside each section a given value wins over a variable, key by key, and a section that is given
ready made is taken as it is. A key of the caller's that is no section is a fault.

A variable sets one key of a section, or a whole section as JSON. The variables of
single keys win over that of the section. What is said for a whole section has to be readable even
if it does not count.
-/

namespace LabelTemplate.Adapters

open Settings

/-! ## Sections -/

/-- Reads a section. -/
def checkSection : (k : Section) → List (Text × Value) → Checked k.Content
  | .label => Label.ofEntries {}
  | .render => RenderSettings.ofEntries
  | .preview => Checked.optional Value.asInteger Setting.debounceMs.key ({} : Settings).debounceMs
  | .encoding => Checked.optional Value.asBool Setting.remap.key ({} : Settings).remap
  | .editing =>
    Checked.optional Value.asBool Setting.uppercaseCodes.key ({} : Settings).uppercaseCodes
  | .naming => ExportSettings.ofEntries
  | .logging => Checked.optional Value.asText Setting.logLevel.key ({} : Settings).logLevel

/-- The failure that faults are. -/
def validationError (faults : List Fault) : ForeignError :=
  ⟨"ValidationError", Fault.messages faults⟩

/-- Parses the text of a settings file. -/
def load (t : Text) : Except ForeignError Node :=
  (Yaml.read t).mapError fun
    | .malformed => ⟨"YAMLError", ""⟩
    | .scalar cause => ⟨"ValueError", cause.message⟩

/-- Builds a section from values under its keys. -/
def build (k : Section) (entries : List (Text × Value)) : Except ForeignError k.Content :=
  (checkSection k entries).toExcept.mapError validationError

/-! ## The environment -/

/-- Splits a name at the first pair of underscores. -/
def splitName? (name : Text) : Option (Text × Text) := Text.cut? ['_', '_'] name

/-- What a key that a variable sets comes to; a deeper name sets a part of a value. -/
def deepened : Text × Text → Text × Value
  | (key, v) =>
    match splitName? key with
    | none => (key, .text v)
    | some (outer, inner) => (outer, .map [(inner, .text v)])

/-- What variables of single keys set in a section; the key itself wins over parts of it. -/
def keysOf (environment : List (Text × Text)) (k : Section) : List (Text × Value) :=
  let entries := (variablesOf environment k).map deepened
  entries.filter (·.2.isMap) ++ entries.filter (!·.2.isMap)

/-- The variable that sets a whole section; of several the last. -/
def wholeOf? (environment : List (Text × Text)) (k : Section) : Option Text :=
  (environment.reverse.find? fun (name, _) =>
    lowerName name == variableStart ++ k.name.toList).map Prod.snd

/-- What the environment says of a section. -/
def exported (environment : List (Text × Text)) (k : Section) : Except ForeignError Value :=
  let keys := keysOf environment k
  match (wholeOf? environment k).map JsonReader.read? with
  | none => .ok (.map keys)
  | some none =>
    .error ⟨"SettingsError",
      "error parsing value for field \"" ++ k.name ++ "\" from source \"EnvSettingsSource\""⟩
  | some (some .null) => .ok (.map [])
  | some (some (.map entries)) =>
    .ok (.map (entries.map (fun (key, v) => (lowerName key, v)) ++ keys))
  | some (some v) => .ok v

/-! ## Putting together -/

/-- What a caller gives for a section: values, or the section itself. -/
inductive Given (k : Section) where
  | values (v : Value)
  | built (content : k.Content)

/-- A section from what the environment says of it, with what is given over that. -/
def layered {k : Section} (below : Value) : Option (Given k) → Checked k.Content
  | none => (below.asRecord (checkSection k)).within k.name
  | some (.built content) => .accepted content
  | some (.values v) =>
    let together : Value := match v, below with
      | .map above, .map entries => .map (entries ++ above)
      | v, _ => v
    (together.asRecord (checkSection k)).within k.name

/-- A section, if what the environment says of it can be read. -/
def assembled {k : Section} (environment : List (Text × Text)) (given : Option (Given k)) :
    Except ForeignError (Checked k.Content) :=
  (exported environment k).map fun below => layered below given

/-- The settings from what is given and the environment; the faults of all sections are kept. -/
def assemble (environment : List (Text × Text)) (given : (k : Section) → Option (Given k))
    (otherFaults : List Fault) : Except ForeignError Settings := do
  let label ← assembled environment (given .label)
  let render ← assembled environment (given .render)
  let preview ← assembled environment (given .preview)
  let encoding ← assembled environment (given .encoding)
  let editing ← assembled environment (given .editing)
  let naming ← assembled environment (given .naming)
  let logging ← assembled environment (given .logging)
  let settings := Settings.mk <$> label <*> render <*> preview <*> encoding <*> editing <*> naming
    <*> logging
  (settings.butFor otherFaults).toExcept.mapError validationError

/-- The faults of keys that are no sections. -/
def unknownKeys (given : List (Text × Value)) : List Fault :=
  (given.filter fun entry => !Section.all.any (·.name.toList == entry.1)).map fun entry =>
    { path := [String.ofList entry.1], reason := .unknownKey }

/-- The settings from values that a caller gives, each under the name of its section. -/
def ofValues (environment : List (Text × Text)) (given : List (Text × Value)) :
    Except ForeignError Settings :=
  assemble environment (fun k => (Value.lookup? k.name.toList given).map .values)
    (unknownKeys given)

/-- What settings are made with. -/
def toolkit : Toolkit where
  load := load
  build := build
  assemble environment given := assemble environment (fun k => (given k).map .built) []

end LabelTemplate.Adapters
