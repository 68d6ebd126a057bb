import LabelTemplate.Statement.Basic
import LabelTemplate.Text.Scan

/-!
# Recognising field statements

Whether a field statement starts at the beginning of a text, and which. A
coordinate is the longest run without comma, caret and white space, so a
statement's coordinates are found without looking further on. The rest follows one
rule for each kind:

* text: the first of `^FD` and `^FS` after the coordinates is a `^FD`, and some
  `^FS` comes after it;
* bar code: the coordinates are followed directly by `^BE` or `^BC`, a capital
  letter and a comma, and the rule for texts holds behind that;
* image: before any `^FS` there is a `^XG` that a name and a comma follow
  directly.
-/

namespace LabelTemplate.Statement

/-- Can this character be part of a coordinate? -/
def isCoordinate (c : Char) : Bool := c != ',' && c != '^' && !isBlank c

/-- Can this character be part of the name of a graphic? -/
def isName (c : Char) : Bool := c != ',' && c != '^' && c != '\r' && c != '\n'

/-- The text behind `start`, if it begins with it. -/
def after? (start t : Text) : Option Text :=
  if start.isPrefixOf t then some (t.drop start.length) else none

/-- The two coordinates at the beginning of a text, and what follows them. -/
def coordinates? (t : Text) : Option (Text × Text × Text) :=
  match t.dropWhile isCoordinate with
  | ',' :: rest =>
    some (t.takeWhile isCoordinate, rest.takeWhile isCoordinate, rest.dropWhile isCoordinate)
  | _ => none

/-- Does a data command or the end of a statement start here? -/
def atDataOrEnd (t : Text) : Bool := Command.fieldData.isPrefixOf t || Command.fieldEnd.isPrefixOf t

/-- What stands before the data command, and the data up to the end of the statement. -/
def payload? (t : Text) : Option (Text × Text) := do
  let (middle, rest) := Text.splitBefore atDataOrEnd t
  let behind ← after? Command.fieldData rest
  let (value, _) ← Text.cut? Command.fieldEnd behind
  pure (middle, value)

/-- The name that a graphic call at the beginning of a text calls. -/
def calledName? (t : Text) : Option Text :=
  match after? Command.graphicCall t with
  | none => none
  | some behind =>
    match behind.takeWhile isName, behind.dropWhile isName with
    | c :: name, ',' :: _ => some (c :: name)
    | _, _ => none

/-- What stands before the first complete graphic call of a statement, and the name it calls. -/
def graphicCall? : Text → Option (Text × Text)
  | [] => none
  | c :: cs =>
    if Command.fieldEnd.isPrefixOf (c :: cs) then none
    else match calledName? (c :: cs) with
      | some name => some ([], name)
      | none => (graphicCall? cs).map fun (before, name) => (c :: before, name)

/-- The bar code command at the beginning of a text, with its orientation and the comma. -/
def barcodeCommand? (t : Text) : Option Text := do
  let behind ← (after? Command.ean13 t).or (after? Command.code128 t)
  match behind with
  | orientation :: ',' :: _ => if orientation.isUpper then some (t.take 5) else none
  | _ => none

/-- What stands between the coordinates and the value, and the value, for a kind of field. -/
def middleAndValue? (kind : FieldKind) (t : Text) : Option (Text × Text) :=
  match kind with
  | .image => graphicCall? t
  | .text => payload? t
  | .barcode => do
    let command ← barcodeCommand? t
    let (middle, value) ← payload? (t.drop command.length)
    pure (command ++ middle, value)

/-- The field statement at the beginning of a text. -/
def match? (kind : FieldKind) (t : Text) : Option Statement := do
  let behind ← after? kind.opener t
  let (x, y, rest) ← coordinates? behind
  let (middle, value) ← middleAndValue? kind rest
  pure { kind := kind, x := x, y := y, middle := middle, value := value }

/-- The recogniser of the statements of a kind. -/
def recognise (kind : FieldKind) : Scan.Recogniser Statement := fun t =>
  (match? kind t).map fun s => (s, s.length)

end LabelTemplate.Statement
