import LabelTemplate.Text.Basic

/-!
# Options and the forms of commands

Every option of the command line, and the commands with the options that each of
them knows. A form also holds what the help of its command says, so that reading a
command line and explaining it cannot disagree.
-/

namespace LabelTemplate.CommandLine

/-- The options. That for help is known everywhere and not listed here. -/
inductive Switch where
  /-- The settings file. -/
  | config
  /-- Fields as structured data. -/
  | json
  /-- An assignment. -/
  | set
  /-- A move. -/
  | move
  /-- The number of a field whose graphic is to be embedded. -/
  | embed
  /-- The file to write. -/
  | out
  /-- A file with graphics and the name to call them by. -/
  | image
  /-- The comment of a compiled file. -/
  | comment
deriving DecidableEq, Repr

namespace Switch

/-- The name of an option as it is typed. -/
def name : Switch → Text
  | config => "--config".toList
  | json => "--json".toList
  | set => "--set".toList
  | move => "--move".toList
  | embed => "--embed".toList
  | out => "--out".toList
  | image => "--image".toList
  | comment => "--comment".toList

/-- What the help shows in the place of the value; absent for an option without one. -/
def placeholder? : Switch → Option Text
  | config => some "CONFIG".toList
  | json => none
  | set => some "N=VALUE".toList
  | move => some "N=X,Y".toList
  | embed => some "N".toList
  | out => some "OUT".toList
  | image => some "FILE=NAME".toList
  | comment => some "COMMENT".toList

/-- What the help says about an option. -/
def purpose : Switch → Text
  | config => "运行期配置YAML".toList
  | _ => []

end Switch

/-- The commands. -/
inductive CommandName where
  /-- List the fields of a template. -/
  | fields
  /-- Edit fields and write the file to be delivered. -/
  | exportFile
  /-- Append the graphics of other files. -/
  | compile
deriving DecidableEq, Repr

namespace CommandName

/-- The name of a command as it is typed. -/
def name : CommandName → Text
  | fields => "fields".toList
  | exportFile => "export".toList
  | compile => "compile".toList

/-- What the help says about a command. -/
def purpose : CommandName → Text
  | fields => "列出模板字段".toList
  | exportFile => "修改字段并导出".toList
  | compile => "合并其他文件的图片定义".toList

/-- All commands, in the order of the help. -/
def all : List CommandName := [fields, exportFile, compile]

/-- The command of a name. -/
def ofText? (t : Text) : Option CommandName := all.find? (·.name == t)

end CommandName

/-- What stands on a command line besides options. -/
inductive Operand where
  /-- The path of the template. -/
  | template
  /-- A command, and behind it everything that is the command's own. -/
  | command
deriving DecidableEq, Repr

/-- The name of an operand in messages. -/
def Operand.name : Operand → Text
  | .template => "template".toList
  | .command => "command".toList

/-- What can stand on a command line, or behind the name of a command. -/
structure Form where
  /-- The command; absent for the whole line. -/
  command : Option CommandName
  /-- What stands there besides options. -/
  operand : Operand
  /-- The options. -/
  switches : List Switch
  /-- The options that have to be there. -/
  required : List Switch := []
deriving DecidableEq, Repr

namespace Form

/-- The form of the whole line. -/
def line : Form where
  command := none
  operand := .command
  switches := [.config]

/-- The form of what stands behind the name of a command. -/
def ofCommand : CommandName → Form
  | .fields => { command := some .fields, operand := .template, switches := [.json] }
  | .exportFile =>
    { command := some .exportFile, operand := .template, switches := [.set, .move, .embed, .out] }
  | .compile =>
    { command := some .compile, operand := .template, switches := [.image, .comment, .out]
      required := [.image, .comment] }

end Form

end LabelTemplate.CommandLine
