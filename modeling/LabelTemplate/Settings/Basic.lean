import LabelTemplate.Label

/-!
# Settings

What can be set about a run, in sections. Every setting has a default, stands under a key of its
section and is one variable of the environment.
-/

namespace LabelTemplate

/-- How the render service is asked. -/
structure RenderSettings where
  /-- The address of the service. -/
  baseUrl : Text := "https://api.labelary.com".toList
  /-- How many seconds to wait for an answer. -/
  timeoutSec : Binary64 := Binary64.ofInt 15
  /-- The type of picture that is wanted. -/
  accept : Text := "image/png".toList
deriving DecidableEq, Repr

/-- How files are named. -/
structure ExportSettings where
  /-- The end of the name of an exported file. -/
  extension : Text := ".zpl".toList
  /-- The beginning of the name of a file with compiled graphics. -/
  compiledStart : Text := "UPDATED_".toList
deriving DecidableEq, Repr

/-- All settings of a run. -/
structure Settings where
  /-- The measures of the label. -/
  label : Label := {}
  /-- How the render service is asked. -/
  render : RenderSettings := {}
  /-- How many milliseconds without a further edit pass before a preview is asked for. -/
  debounceMs : Int := 500
  /-- Whether accented letters are written by their code. -/
  remap : Bool := true
  /-- Whether names of graphics and data of bar codes are put into upper case. -/
  uppercaseCodes : Bool := true
  /-- How files are named. -/
  naming : ExportSettings := {}
  /-- From which level on events are logged. -/
  logLevel : Text := "INFO".toList
deriving DecidableEq, Repr

namespace Settings

/-! ## Sections -/

/-- The sections, in the order in which they are read. -/
inductive Section where
  | label | render | preview | encoding | editing | naming | logging
deriving DecidableEq, Repr

namespace Section

/-- The name of a section. -/
def name : Section → String
  | label => "label"
  | render => "render"
  | preview => "preview"
  | encoding => "encoding"
  | editing => "editing"
  | naming => "export"
  | logging => "logging"

/-- All sections. -/
def all : List Section := [label, render, preview, encoding, editing, naming, logging]

/-- What a section holds. -/
abbrev Content : Section → Type
  | label => Label
  | render => RenderSettings
  | preview => Int
  | encoding => Bool
  | editing => Bool
  | naming => ExportSettings
  | logging => Text

end Section

/-- What settings hold in a section. -/
def part (s : Settings) : (k : Section) → k.Content
  | .label => s.label
  | .render => s.render
  | .preview => s.debounceMs
  | .encoding => s.remap
  | .editing => s.uppercaseCodes
  | .naming => s.naming
  | .logging => s.logLevel

/-- Settings with a given content of each section. -/
def ofParts (content : (k : Section) → k.Content) : Settings where
  label := content .label
  render := content .render
  debounceMs := content .preview
  remap := content .encoding
  uppercaseCodes := content .editing
  naming := content .naming
  logLevel := content .logging

theorem part_ofParts {content : (k : Section) → k.Content} (k : Section) :
    (ofParts content).part k = content k := by
  cases k <;> rfl

end Settings

/-! ## Single settings -/

/-- A single setting: its section, and the type of its value. -/
inductive Setting : Settings.Section → Type → Type where
  | dpmm : Setting .label Int
  | width : Setting .label Binary64
  | height : Setting .label Binary64
  | baseUrl : Setting .render Text
  | timeoutSec : Setting .render Binary64
  | accept : Setting .render Text
  | debounceMs : Setting .preview Int
  | remap : Setting .encoding Bool
  | uppercaseCodes : Setting .editing Bool
  | extension : Setting .naming Text
  | compiledStart : Setting .naming Text
  | logLevel : Setting .logging Text

namespace Setting

variable {k : Settings.Section} {α : Type}

/-- The key of a setting in its section. -/
def key : Setting k α → String
  | dpmm => "dpmm"
  | width => "width"
  | height => "height"
  | baseUrl => "base_url"
  | timeoutSec => "timeout_sec"
  | accept => "accept"
  | debounceMs => "debounce_ms"
  | remap => "cp850_remap"
  | uppercaseCodes => "uppercase_codes"
  | extension => "extension"
  | compiledStart => "compiled_prefix"
  | logLevel => "log_level"

/-- The value of a setting in what its section holds. -/
def of : Setting k α → k.Content → α
  | dpmm, label => label.dpmm
  | width, label => label.width
  | height, label => label.height
  | baseUrl, render => render.baseUrl
  | timeoutSec, render => render.timeoutSec
  | accept, render => render.accept
  | debounceMs, wait => wait
  | remap, remapped => remapped
  | uppercaseCodes, uppercase => uppercase
  | extension, naming => naming.extension
  | compiledStart, naming => naming.compiledStart
  | logLevel, level => level

end Setting

namespace Settings

/-- The value of a single setting. -/
def get {k : Section} {α : Type} (s : Settings) (setting : Setting k α) : α :=
  setting.of (s.part k)

/-- The keys of a section. -/
def Section.keys : Section → List String
  | label => [Setting.dpmm.key, Setting.width.key, Setting.height.key]
  | render => [Setting.baseUrl.key, Setting.timeoutSec.key, Setting.accept.key]
  | preview => [Setting.debounceMs.key]
  | encoding => [Setting.remap.key]
  | editing => [Setting.uppercaseCodes.key]
  | naming => [Setting.extension.key, Setting.compiledStart.key]
  | logging => [Setting.logLevel.key]

/-! ## Variables -/

/-- The beginning of the names of the environment variables. -/
def variableStart : Text := "zpleditor_".toList

/-- The beginning of the names of the variables of a section's settings. -/
def Section.variableStart (k : Section) : Text :=
  Settings.variableStart ++ (k.name.toList ++ ['_', '_'])

/-- Lower case of the letters that names of variables are made of. -/
def lowerName (name : Text) : Text := name.map Char.toLower

/-- The key and the value of a variable of a section; the key stands behind the section's name. -/
def variableOf? (k : Section) (variable_ : Text × Text) : Option (Text × Text) :=
  let name := lowerName variable_.1
  if k.variableStart.isPrefixOf name then some (name.drop k.variableStart.length, variable_.2)
  else none

/-- What the variables of a section say, under their keys. -/
def variablesOf (environment : List (Text × Text)) (k : Section) : List (Text × Text) :=
  environment.filterMap (variableOf? k)

/-! ## What follows from settings -/

/-- The waiting time of the preview in seconds, unless it is beyond all numbers. -/
def debounceSec? (s : Settings) : Option Binary64 :=
  let wait := Binary64.ofInt s.debounceMs
  if wait.magnitude?.isNone then none else some (wait.divNat 1000)

/-- How it is said that a waiting time is beyond all numbers. -/
def endlessWait : String := "int too large to convert to float"

/-- The levels of events that are known. -/
def logLevels : List String :=
  ["CRITICAL", "FATAL", "ERROR", "WARN", "WARNING", "INFO", "DEBUG", "NOTSET"]

/-- Is the level one that is known? -/
def logLevelKnown (s : Settings) : Bool := logLevels.contains (String.ofList s.logLevel)

end Settings

end LabelTemplate
