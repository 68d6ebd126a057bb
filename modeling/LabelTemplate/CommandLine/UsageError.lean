import LabelTemplate.CommandLine.Edit
import LabelTemplate.CommandLine.Form

/-!
# Errors in the use of the command line

What can be wrong with a command line, as causes, and the one sentence that the user
reads of each.
-/

namespace LabelTemplate.CommandLine

/-- Why the value of an option is refused. -/
inductive Refusal where
  /-- It has not the form of an edit. -/
  | wrongForm (form : EditForm)
  /-- It has the form of an edit, but a number in it cannot be read. -/
  | unreadableEdit (form : EditForm)
  /-- It is no number. -/
  | notNumber
deriving DecidableEq, Repr

/-- The wording of a refusal. -/
def Refusal.message (given : Text) : Refusal → String
  | .wrongForm form => (EditError.malformed form given).message
  | .unreadableEdit .assignment =>
    "invalid _parse_assignment value: " ++ String.ofList (Quoted.quote given)
  | .unreadableEdit .move => "invalid _parse_move value: " ++ String.ofList (Quoted.quote given)
  | .notNumber => "invalid int value: " ++ String.ofList (Quoted.quote given)

/-- Why a command line cannot be read. -/
inductive UsageError where
  /-- A word begins the names of several options. -/
  | ambiguous (word : Text) (candidates : List Text)
  /-- An option has no value. -/
  | noValue (name : Text)
  /-- An option that takes no value has one. -/
  | needlessValue (name value : Text)
  /-- The value of an option is refused. -/
  | refused (name given : Text) (cause : Refusal)
  /-- There is no command of this name. -/
  | unknownCommand (name : Text)
  /-- Something that has to be there is missing. -/
  | missing (names : List Text)
  /-- Words are left over. -/
  | leftOver (words : List Text)
deriving DecidableEq, Repr

/-- The wording of what is said about one argument. -/
def aboutArgument (name : Text) (what : String) : String :=
  "argument " ++ String.ofList name ++ ": " ++ what

/-- The wording of an error. -/
def UsageError.message : UsageError → String
  | .ambiguous word candidates =>
    "ambiguous option: " ++ String.ofList word ++ " could match "
      ++ String.ofList (Text.joinWith [',', ' '] candidates)
  | .noValue name => aboutArgument name "expected one argument"
  | .needlessValue name value =>
    aboutArgument name ("ignored explicit argument " ++ String.ofList (Quoted.quote value))
  | .refused name given cause => aboutArgument name (cause.message given)
  | .unknownCommand name =>
    aboutArgument Operand.command.name
      ("invalid choice: " ++ String.ofList (Quoted.quote name) ++ " (choose from "
        ++ String.ofList (Text.joinWith [',', ' '] (CommandName.all.map (Quoted.quote ·.name)))
        ++ ")")
  | .missing names =>
    "the following arguments are required: " ++ String.ofList (Text.joinWith [',', ' '] names)
  | .leftOver words => "unrecognized arguments: " ++ String.ofList (Text.joinWith [' '] words)

end LabelTemplate.CommandLine
