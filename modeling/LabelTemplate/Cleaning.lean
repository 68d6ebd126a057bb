import LabelTemplate.Command
import LabelTemplate.Statement.Recognise
import LabelTemplate.Text.Digit

/-!
# Cleaning a document for delivery

Five steps turn a generated document into one that another printer understands. Each
looks for one pattern from the left and puts something in the place of its matches:

* every data command gets a hex marker in front, unless it has one;
* inside field data the code of the underscore becomes an underscore again;
* formats that only delete a stored object are taken out;
* definitions of graphics before a format are taken out;
* EAN-13 bar codes print their digits.
-/

namespace LabelTemplate.Cleaning

/-- Does a hex marker, with or without an escape character, end right here? Read backwards. -/
def endsWithMarker : Text → Bool
  | 'H' :: 'F' :: '^' :: _ => true
  | c :: 'H' :: 'F' :: '^' :: _ => c != '\n'
  | _ => false

/-- A text with missing hex markers put in; `seen` is what comes before it, read backwards. -/
def addMarkers (seen : Text) : Text → Text
  | [] => []
  | c :: cs =>
    let rest := c :: addMarkers (c :: seen) cs
    if Command.fieldData.isPrefixOf (c :: cs) && !endsWithMarker seen then
      Command.hexMarker ++ rest
    else rest

/-- Puts a hex marker before every data command that has none. -/
def ensureHexMarkers (t : Text) : Text := addMarkers [] t

/-- The code of the underscore in an escaped text. -/
def escapedUnderscore : Text := ['_', '5', 'f']

/-- Field data: the data command up to the end of the statement. -/
def fieldData : Scan.Recogniser Text := fun t => do
  let behind ← Statement.after? Command.fieldData t
  let (value, _) ← Text.cut? Command.fieldEnd behind
  let data := Command.fieldData ++ value ++ Command.fieldEnd
  pure (data, data.length)

/-- Makes underscores in field data out of their codes. -/
def restoreUnderscores (t : Text) : Text :=
  Scan.replace fieldData (Text.replaceAll escapedUnderscore ['_']) t

/-- What comes behind the end of a statement and of its format, with white space passed over. -/
def behindFormat? (t : Text) : Option Text := do
  let behind ← Statement.after? Command.fieldEnd t
  let behind ← Statement.after? Command.formatEnd behind.trimStart
  pure behind.trimStart

/-- What comes behind the first place where a statement and its format end together. -/
def behindFirstFormat? : Text → Option Text
  | [] => none
  | c :: cs => (behindFormat? (c :: cs)).or (behindFirstFormat? cs)

/-- A format that begins by deleting a stored object, up to where a format ends. -/
def housekeeping : Scan.Recogniser Unit := fun t => do
  let behind ← Statement.after? Command.formatStart t
  let behind ← Statement.after? Command.deleteObject behind.trimStart
  let behind ← behindFirstFormat? behind
  pure ((), t.length - behind.length)

/-- Takes out formats that delete a stored object. -/
def stripHousekeeping (t : Text) : Text := Scan.replace housekeeping (fun _ => []) t

/-- Does a format start or end here? -/
def atFormatCommand (t : Text) : Bool :=
  Command.formatStart.isPrefixOf t || Command.formatEnd.isPrefixOf t

/-- Definitions up to the start of a format, with no format end before it. -/
def definitionsBeforeFormat : Scan.Recogniser Unit := fun t => do
  let behind ← Statement.after? Command.storeGraphic t
  let (data, rest) := Text.splitBefore atFormatCommand behind
  let _ ← Statement.after? Command.formatStart rest
  pure ((), Command.storeGraphic.length + data.length + Command.formatStart.length)

/-- Takes out definitions before a format; the start of the format stays. -/
def stripDefinitions (t : Text) : Text :=
  Scan.replace definitionsBeforeFormat (fun _ => Command.formatStart) t

/--
An EAN-13 command whose digits are not printed: what stands before the flag and what
behind it. The flag counts only if another one follows.
-/
def hiddenDigits : Scan.Recogniser (Text × Text) := fun t => do
  let behind ← Statement.after? Command.ean13 t
  match behind with
  | orientation :: ',' :: cs =>
    let height := cs.takeWhile isDecimal
    match orientation.isUpper, cs.dropWhile isDecimal with
    | true, ',' :: 'N' :: ',' :: above :: _ =>
      if above.isUpper then
        let front := Command.ean13 ++ orientation :: ',' :: height ++ [',']
        pure ((front, [',', above]), front.length + 3)
      else none
    | _, _ => none
  | _ => none

/-- Has the digits of EAN-13 bar codes printed. -/
def forceInterpretationLine (t : Text) : Text :=
  Scan.replace hiddenDigits (fun (front, back) => front ++ 'Y' :: back) t

/-- A step of the cleaning. -/
inductive Step where
  /-- Put in missing hex markers. -/
  | ensureHexMarkers
  /-- Make underscores out of their codes. -/
  | restoreUnderscores
  /-- Take out formats that delete a stored object. -/
  | stripHousekeeping
  /-- Take out definitions before a format. -/
  | stripDefinitions
  /-- Have the digits of EAN-13 bar codes printed. -/
  | forceInterpretationLine
deriving DecidableEq, Repr

namespace Step

/-- What a step does to a document. -/
def apply : Step → Text → Text
  | .ensureHexMarkers => Cleaning.ensureHexMarkers
  | .restoreUnderscores => Cleaning.restoreUnderscores
  | .stripHousekeeping => Cleaning.stripHousekeeping
  | .stripDefinitions => Cleaning.stripDefinitions
  | .forceInterpretationLine => Cleaning.forceInterpretationLine

/-- All steps, in the order in which they are taken. -/
def all : List Step :=
  [.ensureHexMarkers, .restoreUnderscores, .stripHousekeeping, .stripDefinitions,
   .forceInterpretationLine]

end Step

/-- The document after all steps. -/
def clean (t : Text) : Text := Step.all.foldl (fun document step => step.apply document) t

end LabelTemplate.Cleaning
