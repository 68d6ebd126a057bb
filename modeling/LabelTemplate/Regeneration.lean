import LabelTemplate.CodePage
import LabelTemplate.Field.Basic
import LabelTemplate.Warning

/-!
# Writing fields back into a template

The document is searched for the same records as when its fields were found. A
record finds its field by the value in the template, or by the number of the statement if
several fields of the kind share that value. A field that was changed gives a
replacement for its record; everything outside the replacements stays as it is.

Records of different kinds can overlap in a damaged template. Replacements are
accepted in the order images, bar codes, texts, and one that overlaps an accepted
one is left out with a warning.
-/

namespace LabelTemplate.Regeneration

/-- Do several of the fields have this value in the template? -/
def ambiguous (fields : List Field) (value : Text) : Bool :=
  1 < (fields.filter (·.templateValue == value)).length

/-- The last field with an ambiguous value in the template and the given statement number. -/
def byOrdinal? (fields : List Field) (ordinal : Nat) : Option Field :=
  (fields.filter fun f =>
    ambiguous fields f.templateValue && f.sourceOrdinal == (ordinal : Int)).getLast?

/-- The field of a record among fields of its kind. -/
def resolve? (fields : List Field) (r : Record) : Option Field :=
  if ambiguous fields r.value then
    (byOrdinal? fields r.ordinal).filter (·.templateValue == r.value)
  else fields.find? (·.templateValue == r.value)

/-- The changed field that a record is written again for. -/
def modifiedField? (fields : List Field) (r : Record) : Option Field :=
  if r.position?.isNone then none
  else (resolve? (fields.filter (·.kind == r.kind)) r).filter (·.isModified)

/-- A value as it is written into a statement; `remap` asks for escapes. -/
def written (remap : Bool) (s : Statement) (value : Text) : Text :=
  if !remap then value
  else match s.kind with
    | .image => value
    | .barcode => CodePage.escapeLetters [Statement.defaultEscape] value
    | .text => CodePage.encode s.escape value

/-- What changes in the statement of a field. -/
def changeOf (remap : Bool) (s : Statement) (f : Field) : Statement.Change where
  value := if f.isEdited then some (written remap s f.currentValue) else none
  position := f.movedTo?
  ensureHex := s.kind == .text && f.isEdited && remap
    && CodePage.needsMarker [s.escape] (written remap s f.currentValue)

/-- A part of a document and what comes in its place. -/
structure Replacement where
  /-- Where the part starts. -/
  start : Nat
  /-- Where the part ends. -/
  stop : Nat
  /-- What comes in its place. -/
  text : Text
deriving DecidableEq, Repr

namespace Replacement

/-- Do the parts have a character in common? -/
def overlaps (r s : Replacement) : Bool := r.start < s.stop && s.start < r.stop

end Replacement

/-- The replacement for a record, if its field was changed. -/
def replacement? (remap : Bool) (fields : List Field) (r : Record) : Option Replacement :=
  (modifiedField? fields r).map fun f =>
    { start := r.start, stop := r.stop, text := r.statement.render (changeOf remap r.statement f) }

/-- The replacements for a document, in the order in which they are considered. -/
def replacements (remap : Bool) (document : Text) (fields : List Field) : List Replacement :=
  (editableRecords document).filterMap (replacement? remap fields)

/--
The replacements that overlap none accepted before them, and the others. `kept` are
the ones accepted so far.
-/
def selectFrom (kept : List Replacement) : List Replacement → List Replacement × List Replacement
  | [] => ([], [])
  | r :: rs =>
    if kept.any (r.overlaps ·) then
      let (accepted, dropped) := selectFrom kept rs
      (accepted, r :: dropped)
    else
      let (accepted, dropped) := selectFrom (r :: kept) rs
      (r :: accepted, dropped)

/-- Accepted and dropped replacements. -/
def select (rs : List Replacement) : List Replacement × List Replacement := selectFrom [] rs

/-- A text from a given offset on, with replacements in ascending order put in. -/
def spliceFrom (offset : Nat) (t : Text) : List Replacement → Text
  | [] => t
  | r :: rs =>
    t.take (r.start - offset) ++ r.text ++ spliceFrom r.stop (t.drop (r.stop - offset)) rs

/-- A text with disjoint replacements put in. -/
def splice (t : Text) (rs : List Replacement) : Text :=
  spliceFrom 0 t (rs.mergeSort fun r s => r.start ≤ s.start)

/-- The document with the current values and positions; empty if there is nothing to write. -/
def regenerate (remap : Bool) (document : Text) (fields : List Field) : Text :=
  if document.isEmpty || fields.isEmpty then []
  else splice document (select (replacements remap document fields)).1

/-- One warning for each replacement that was left out. -/
def warnings (remap : Bool) (document : Text) (fields : List Field) : List Warning :=
  if document.isEmpty || fields.isEmpty then []
  else (select (replacements remap document fields)).2.map fun r =>
    .overlappingReplacement r.start r.stop

end LabelTemplate.Regeneration
