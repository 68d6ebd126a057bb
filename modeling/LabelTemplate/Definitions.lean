import LabelTemplate.Command
import LabelTemplate.Statement.Recognise
import LabelTemplate.Text.Fold

/-!
# Stored graphics

A template may store graphics before its first format. They are captured once, from
the template as it was loaded, as one stretch of text from the first definition to
the start of the format. A definition is the store command, the name up to a comma,
and the data.

A single definition is looked up by name without regard to letter case and ends
where the next definition or format command begins. Renaming puts all new names in at
once, so that exchanging two names works.
-/

namespace LabelTemplate

/-- The captured definitions of a template. -/
structure Definitions where
  /-- The text from the first definition to the start of the format. -/
  text : Text := []
deriving DecidableEq, Repr

namespace Definitions

/-- Are there any? -/
def present (d : Definitions) : Bool := !d.text.isEmpty

/-- The definitions of a template, with the format start behind them; none without a format. -/
def capture (document : Text) : Definitions :=
  match Text.cut? Command.storeGraphic document with
  | none => {}
  | some (_, behind) =>
    match Text.cut? Command.formatStart behind with
    | none => {}
    | some (body, _) => { text := Command.storeGraphic ++ body ++ Command.formatStart }

/-- The beginning of the definition of a name. -/
def opening (name : Text) : Text := Command.storeGraphic ++ name ++ [',']

/-- Does another definition or a format command start here, whatever the letter case? -/
def atBlockEnd (t : Text) : Bool :=
  Text.startsWithFolded Command.storeGraphic t || Text.startsWithFolded Command.formatStart t
    || Text.startsWithFolded Command.formatEnd t

/-- The definition of a name; empty if there is none. -/
def lookup (d : Definitions) (name : Text) : Text :=
  if name.isEmpty then []
  else
    let start := opening name
    match (Text.splitBefore (Text.startsWithFolded start) d.text).2 with
    | [] => []
    | block => block.take start.length ++ (Text.splitBefore atBlockEnd (block.drop start.length)).1

/-- New names for old ones. -/
abbrev Renaming := List (Text × Text)

/-- The entries that change something, the longest old names first. -/
def effective (names : Renaming) : Renaming :=
  (names.filter fun (old, new) => !old.isEmpty && old != new).mergeSort
    fun a b => b.1.length ≤ a.1.length

/-- The definition that starts here, if it has one of the old names: the new name. -/
def renamedOpening (names : Renaming) : Scan.Recogniser Text := fun t => do
  let behind ← Statement.after? Command.storeGraphic t
  let (old, new) ← names.find? fun (old, _) => (old ++ [',']).isPrefixOf behind
  pure (new, Command.storeGraphic.length + old.length)

/-- The definitions without the format start behind them. -/
def body (d : Definitions) : Text := (Text.dropSuffix Command.formatStart d.text).trimEnd

/-- The definitions without the format start behind them, under new names. -/
def renamed (d : Definitions) (names : Renaming) : Text :=
  Scan.replace (renamedOpening (effective names)) (Command.storeGraphic ++ ·) d.body

end Definitions

end LabelTemplate
