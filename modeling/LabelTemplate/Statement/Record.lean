import LabelTemplate.Statement.Recognise

/-!
# Statement records

The statements of one kind that a document has, from left to right. Each is
recorded with its place in the document and its number among the statements of its
kind. Statements with unreadable coordinates are numbered like all others, so a
number names the same statement whether or not the ones before it are usable.

A bar code statement is also a text statement. The positions that bar codes
occupy are therefore claimed: a text statement at one of them is no text field.
-/

namespace LabelTemplate

/-- A statement at its place in a document. -/
structure Record where
  /-- The number among the statements of its kind, from zero. -/
  ordinal : Nat
  /-- Where the statement starts in the document. -/
  start : Nat
  /-- The statement. -/
  statement : Statement
deriving DecidableEq, Repr

namespace Record

/-- Where the statement ends in the document. -/
def stop (r : Record) : Nat := r.start + r.statement.length

/-- The position, if both coordinates are integers. -/
def position? (r : Record) : Option Position := r.statement.position?

/-- The value as written. -/
def value (r : Record) : Text := r.statement.value

/-- The kind of the statement. -/
def kind (r : Record) : FieldKind := r.statement.kind

/-- Do two records have a character in common? -/
def overlaps (r s : Record) : Bool := r.start < s.stop && s.start < r.stop

end Record

/-- The records of a kind in a document. -/
def records (kind : FieldKind) (document : Text) : List Record :=
  (Scan.hits (Statement.recognise kind) document).zipIdx.map fun ((start, statement), ordinal) =>
    { ordinal := ordinal, start := start, statement := statement }

/-- The positions that the bar codes of a document occupy. -/
def claimedPositions (document : Text) : List Position :=
  (records .barcode document).filterMap Record.position?

/-- Does the record take part in editing: not a text at the place of a bar code? -/
def Record.unclaimed (claimed : List Position) (r : Record) : Bool :=
  match r.kind, r.position? with
  | .text, some p => !claimed.contains p
  | _, _ => true

/--
The records of all kinds that take part in editing: images, then bar codes, then
texts where no bar code is.
-/
def editableRecords (document : Text) : List Record :=
  let claimed := claimedPositions document
  FieldKind.searchOrder.flatMap fun kind =>
    (records kind document).filter (·.unclaimed claimed)

end LabelTemplate
