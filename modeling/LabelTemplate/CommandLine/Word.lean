import LabelTemplate.CommandLine.UsageError

/-!
# The words of a command line

A word is classified by its look and by the options that the form knows. A word that
begins with a dash is an option, with or without a value attached behind an equals
sign, and the name of an option may be cut short as long as it stays unique. A
negative number, a single dash, and a word with a space that begins no option are plain.
Behind the first `--` every word is plain.

The words keep their texts, because words that nobody claims are shown as they were
typed.
-/

namespace LabelTemplate.CommandLine

/-- What a word of a command line is. -/
inductive Word where
  /-- Neither an option nor `--`. -/
  | plain
  /-- The first `--`. -/
  | stop
  /-- The option for help, perhaps with a value attached, which it does not take. -/
  | help (attached : Option Text)
  /-- An option, perhaps with a value attached. -/
  | option (s : Switch) (attached : Option Text)
  /-- It looks like an option and is none. -/
  | unknown
deriving DecidableEq, Repr

namespace Word

/-- The short name of the option for help. -/
def shortHelp : Text := "-h".toList

/-- The long name of the option for help. -/
def longHelp : Text := "--help".toList

/-- Both names of the option for help. -/
def helpName : Text := shortHelp ++ '/' :: longHelp

/-- The option of a name. -/
def named? (switches : List Switch) (name : Text) : Option (Option Text → Word) :=
  if name = shortHelp || name = longHelp then some help
  else (switches.find? (·.name == name)).map option

/-- Is this a negative number, with or without a fraction? A final line feed is passed over. -/
def isNegativeNumber : Text → Bool
  | '-' :: t =>
    let digits := Text.dropSuffix ['\n'] t
    match digits.dropWhile isDecimal with
    | [] => !digits.isEmpty
    | '.' :: fraction => !fraction.isEmpty && fraction.all isDecimal
    | _ => false
  | _ => false

/--
What is attached to a run of short options, if it is attached to one that takes no
value. Only the option for help has a short name, and whatever else follows it comes
too late to matter.
-/
def attachedToShort? : Text → Option Text
  | 'h' :: '=' :: t => some t
  | 'h' :: t => attachedToShort? t
  | '-' :: t => some ('-' :: t)
  | _ => none

/-- A word that begins with a dash and is not the name of an option. -/
def unnamed (switches : List Switch) (word name : Text) (attached : Option Text) :
    Except UsageError Word :=
  let loose := if isNegativeNumber word || word.any (· == ' ') then plain else unknown
  if ['-', '-'].isPrefixOf word then
    match (longHelp :: switches.map Switch.name).filter name.isPrefixOf with
    | [] => .ok loose
    | [whole] => .ok (((named? switches whole).map (· attached)).getD loose)
    | candidates => .error (.ambiguous word candidates)
  else if shortHelp.isPrefixOf word then .ok (help (attachedToShort? (word.drop shortHelp.length)))
  else .ok loose

/-- Classifies a word. -/
def classify (switches : List Switch) (word : Text) : Except UsageError Word :=
  match word with
  | '-' :: _ :: _ =>
    let (name, attached) := match Text.cut? ['='] word with
      | some (name, value) => (name, some value)
      | none => (word, none)
    match named? switches name with
    | some make => .ok (make attached)
    | none => unnamed switches word name attached
  | _ => .ok plain

/-- The words of a command line with their texts. -/
def classifyAll (switches : List Switch) : List Text → Except UsageError (List (Word × Text))
  | [] => .ok []
  | word :: words =>
    if word = ['-', '-'] then .ok ((stop, word) :: words.map fun w => (plain, w))
    else do
      let w ← classify switches word
      let ws ← classifyAll switches words
      pure ((w, word) :: ws)

end Word

end LabelTemplate.CommandLine
