import LabelTemplate.CommandLine.Word

/-!
# Help

The help of a form: how the command line is put together, and then a list of what can
stand on it. The first part is broken so that no line is longer than the screen is
wide, and the lines after the first begin below the first part that is not the name
of the program. In the list every explanation begins in the same column; an entry too
long for it has its explanation on the next line.
-/

namespace LabelTemplate.CommandLine.Help

/-- The width of a line. -/
def width : Nat := 78

/-- The last column in which explanations can begin. -/
def lastColumn : Nat := 24

/-- What stands before the first line. -/
def opening : Text := "usage: ".toList

/-- A text of spaces. -/
def spaces (n : Nat) : Text := List.replicate n ' '

/-- Parts with spaces between them. -/
def spaced (parts : List Text) : Text := Text.joinWith [' '] parts

/-- Distributes parts over lines; `used` is the length of the line that has been begun. -/
def fill (indent : Nat) (line : List Text) (used : Nat) : List Text → List (List Text)
  | [] => if line.isEmpty then [] else [line]
  | part :: parts =>
    if width < used + 1 + part.length && !line.isEmpty then
      line :: fill indent [part] (indent + part.length) parts
    else fill indent (line ++ [part]) (used + 1 + part.length) parts

/-- The parts that show an option. -/
def optionParts (form : Form) (s : Switch) : List Text :=
  match s.placeholder? with
  | none => [['['] ++ s.name ++ [']']]
  | some placeholder =>
    if form.required.contains s then [s.name, placeholder]
    else [['['] ++ s.name ++ ' ' :: placeholder ++ [']']]

/-- The names of the commands in braces. -/
def choices : Text :=
  Char.ofNat 0x7B :: Text.joinWith [','] (CommandName.all.map CommandName.name)
    ++ [Char.ofNat 0x7D]

/-- The parts that show all options. -/
def allOptionParts (form : Form) : List Text :=
  (['['] ++ Word.shortHelp ++ [']']) :: form.switches.flatMap (optionParts form)

/-- The parts that show the operand. -/
def operandParts (form : Form) : List Text :=
  match form.operand with
  | .template => [Operand.template.name]
  | .command => [choices, "...".toList]

/-- The lines that show how a command line is put together. -/
def usageLines (program : Text) (form : Form) : List Text :=
  let options := allOptionParts form
  let operands := operandParts form
  let whole := opening ++ spaced (program :: options ++ operands)
  let start := opening.length + program.length
  if whole.length ≤ width then [whole]
  else if 4 * start ≤ 3 * width then
    let indent := start + 1
    match fill indent [] (opening.length - 1) (program :: options)
        ++ fill indent [] (indent - 1) operands with
    | [] => []
    | first :: others =>
      (opening ++ spaced first) :: others.map fun line => spaces indent ++ spaced line
  else
    let indent := opening.length
    let lines := match fill indent [] (indent - 1) (options ++ operands) with
      | [line] => [line]
      | _ => fill indent [] (indent - 1) options ++ fill indent [] (indent - 1) operands
    (opening ++ program) :: lines.map fun line => spaces indent ++ spaced line

/-- The name of the program together with the command. -/
def programOf (program : Text) (form : Form) : Text :=
  match form.command with
  | none => program
  | some c => program ++ ' ' :: c.name

/-- How a command line is put together. -/
def usage (program : Text) (form : Form) : Text :=
  Text.unlines (usageLines (programOf program form) form) ++ ['\n']

/-- An entry of the list: how far it is set in, what it is about, and the explanation. -/
structure Entry where
  /-- The indentation. -/
  indent : Nat
  /-- What can stand on the command line. -/
  subject : Text
  /-- What it is for; empty if that is not said. -/
  purpose : Text

/-- The entries about the operand. -/
def operandEntries (form : Form) : List Entry :=
  match form.operand with
  | .template => [⟨2, Operand.template.name, []⟩]
  | .command => ⟨2, choices, []⟩ :: CommandName.all.map fun c => ⟨4, c.name, c.purpose⟩

/-- The entries about the options. -/
def optionEntries (form : Form) : List Entry :=
  ⟨2, Word.shortHelp ++ ',' :: ' ' :: Word.longHelp, "show this help message and exit".toList⟩
    :: form.switches.map fun s =>
      let subject := match s.placeholder? with
        | none => s.name
        | some placeholder => s.name ++ ' ' :: placeholder
      ⟨2, subject, s.purpose⟩

/-- The column in which explanations begin. -/
def column (entries : List Entry) : Nat :=
  min ((entries.foldl (fun n e => max n (e.indent + e.subject.length)) 0) + 2) lastColumn

/-- The lines of an entry. -/
def entryLines (column : Nat) (e : Entry) : List Text :=
  if e.purpose.isEmpty then [spaces e.indent ++ e.subject]
  else if e.indent + e.subject.length + 2 ≤ column then
    [spaces e.indent ++ Text.padEnd (column - e.indent) ' ' e.subject ++ e.purpose]
  else [spaces e.indent ++ e.subject, spaces column ++ e.purpose]

/-- What the program is for. -/
def description : Text := "ZPL 模板字段工具".toList

/-- The help of a form. -/
def text (program : Text) (form : Form) : Text :=
  let operands := operandEntries form
  let options := optionEntries form
  let c := column (operands ++ options)
  let about := match form.command with
    | none => [description, []]
    | some _ => []
  usage program form ++ ['\n']
    ++ Text.unlines (about ++ ["positional arguments:".toList]
      ++ operands.flatMap (entryLines c)
      ++ [[], "options:".toList] ++ options.flatMap (entryLines c)) ++ ['\n']

end LabelTemplate.CommandLine.Help
