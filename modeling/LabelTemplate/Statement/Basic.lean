import LabelTemplate.Command
import LabelTemplate.Field.Kind
import LabelTemplate.Field.Position
import LabelTemplate.Text.Blank

/-!
# Field statements

A field statement is kept as the parts that it is written from:

    opener x , y middle dataCommand value closer

An image is positioned by `^FO`, its value is the name after `^XG`, and the
statement is over at the comma behind the name. A bar code or a text is positioned
by `^FT`, its value is the data after `^FD`, and `^FS` ends it. The middle holds
whatever commands come in between, such as the font or the bar code type.

Offsets into the statement are sums of the lengths of its parts, so nothing that is
computed from a statement can disagree with its text.
-/

namespace LabelTemplate

/-- A field statement, part by part. -/
structure Statement where
  /-- What kind of field it prints. -/
  kind : FieldKind
  /-- The first coordinate as written. -/
  x : Text
  /-- The second coordinate as written. -/
  y : Text
  /-- What stands between the coordinates and the command before the value. -/
  middle : Text
  /-- The value as written. -/
  value : Text
deriving DecidableEq, Repr

namespace FieldKind

/-- The positioning command of a statement. -/
def opener : FieldKind → Text
  | .image => Command.fieldOrigin
  | .barcode | .text => Command.fieldTypeset

/-- The command that the value follows. -/
def dataCommand : FieldKind → Text
  | .image => Command.graphicCall
  | .barcode | .text => Command.fieldData

/-- What ends the statement. -/
def closer : FieldKind → Text
  | .image => [',']
  | .barcode | .text => Command.fieldEnd

end FieldKind

namespace Statement

/-- The coordinates as written. -/
def coordinates (s : Statement) : Text := s.x ++ ',' :: s.y

/-- The statement as written. -/
def text (s : Statement) : Text :=
  s.kind.opener ++ s.coordinates ++ s.middle ++ s.kind.dataCommand ++ s.value ++ s.kind.closer

/-- Where the coordinates start. -/
def coordinatesStart (s : Statement) : Nat := s.kind.opener.length

/-- Where the coordinates end. -/
def coordinatesEnd (s : Statement) : Nat := s.coordinatesStart + s.coordinates.length

/-- Where the command before the value starts. -/
def dataStart (s : Statement) : Nat := s.coordinatesEnd + s.middle.length

/-- Where the value starts. -/
def valueStart (s : Statement) : Nat := s.dataStart + s.kind.dataCommand.length

/-- Where the value ends. -/
def valueEnd (s : Statement) : Nat := s.valueStart + s.value.length

/-- Where the statement ends. -/
def length (s : Statement) : Nat := s.valueEnd + s.kind.closer.length

/-- The position, if both coordinates are integers. -/
def position? (s : Statement) : Option Position := Position.read? s.x s.y

/-- The escape character of a statement that names none. -/
def defaultEscape : Char := '_'

/-- The character after a hex marker, if it can be an escape. -/
def escapeAfter : Text → Option Char
  | [] => none
  | c :: _ => if c = '^' || isBlank c then none else some c

/-- The escape character that the first hex marker of a text chooses; nothing without a marker. -/
def markerEscape? (t : Text) : Option Char :=
  (Text.cut? Command.hexMarker t).map fun (_, after) => (escapeAfter after).getD defaultEscape

/--
The escape character that the statement's own hex marker chooses. Only texts are
looked at: a bar code is written without escapes of its own choice.
-/
def ownEscape? (s : Statement) : Option Char :=
  match s.kind with
  | .text => markerEscape? s.middle
  | .image | .barcode => none

/-- Does the statement have a hex marker? -/
def hasHexMarker (s : Statement) : Bool := s.ownEscape?.isSome

/-- The escape character that the data of the statement is written with. -/
def escape (s : Statement) : Char := s.ownEscape?.getD defaultEscape

/-- What to change when a statement is written again. -/
structure Change where
  /-- The new value, already in its written form. -/
  value : Option Text := none
  /-- The new position. -/
  position : Option Position := none
  /-- Whether a hex marker is put in front of the data if there is none. -/
  ensureHex : Bool := false

/-- Is a hex marker put in? Images have no data command that one could precede. -/
def addsMarker (s : Statement) (change : Change) : Bool :=
  change.ensureHex && !s.hasHexMarker && s.kind != .image

/-- The statement written again with a change; all other characters stay as they are. -/
def render (s : Statement) (change : Change) : Text :=
  s.kind.opener
    ++ (match change.position with | some p => p.text | none => s.coordinates)
    ++ s.middle
    ++ (if s.addsMarker change then Command.hexMarker else [])
    ++ s.kind.dataCommand
    ++ change.value.getD s.value
    ++ s.kind.closer

end Statement

end LabelTemplate
