import LabelTemplate.CommandLine.Help
import LabelTemplate.CommandLine.Verdict

/-!
# Runs

A run of the program over a store of files. The command line is read, the request is
carried out, and what it comes to is shown or written. A file that is written is opened
first, which empties it; when it has been written, its path is shown. So a run that fails
while it writes leaves the file with a part of what it should hold, and one that cannot
show the path fails with the file written.
-/

namespace LabelTemplate.CommandLine

/-- How a run ends. -/
inductive Ending where
  /-- With an exit code. -/
  | exit (code : Nat)
  /-- With a failure. -/
  | failed (cause : Failure)

instance {code : Nat} : (ending : Ending) → Decidable (ending = .exit code)
  | .exit found => decidable_of_iff (found = code) ⟨congrArg Ending.exit, Ending.exit.inj⟩
  | .failed _ => isFalse nofun

/-- What a run leaves behind. -/
structure Outcome where
  /-- How it ended. -/
  ending : Ending
  /-- What it showed. -/
  output : Text := []
  /-- What it complained of. -/
  complaint : Text := []
  /-- The files after it. -/
  store : Store

namespace Outcome

/-- The exit code of a command line that cannot be read. -/
def misuseCode : Nat := 2

/-- What a run leaves behind that shows a text, and has written the store before. -/
def ofShown (around : Surroundings) (store : Store) (t : Text) : Outcome :=
  match around.unshown? t with
  | some cause => { ending := .failed (.foreign cause), store := store }
  | none => { ending := .exit 0, output := t, store := store }

/-- What a run leaves behind that does not get beyond its command line. -/
def ofStop (program : Text) (around : Surroundings) (store : Store) (stop : Stop) : Outcome :=
  match stop.halt with
  | .help =>
    let form := (stop.command.map Form.ofCommand).getD Form.line
    ofShown around store (Help.text program form)
  | .misuse e =>
    { ending := .exit misuseCode, complaint := e.message.toList ++ ['\n'], store := store }

/--
Writes a text into the file at a path: the files after it and, if writing has broken off, why.
-/
def write (around : Surroundings) (store : Store) (path : Path) (content : Text) :
    Except Failure (Store × Option ForeignError) := do
  if let some cause := around.barred? path then throw (.foreign cause)
  let (bytes, broken?) := around.written path content
  let store ← (store.write path bytes).mapError (.file path)
  pure (store, broken?)

/-- What a run leaves behind whose request has been carried out. -/
def ofVerdict (around : Surroundings) (store : Store) : Verdict → Outcome
  | .shows t => ofShown around store t
  | .refuses code reason =>
    { ending := .exit code, complaint := reason ++ ['\n'], store := store }
  | .writes path content =>
    match write around store path content with
    | .error cause => { ending := .failed cause, store := store }
    | .ok (written, some cause) => { ending := .failed (.foreign cause), store := written }
    | .ok (written, none) => ofShown around written (path.text ++ ['\n'])

end Outcome

/-- Runs the program. -/
def run (program : Text) (around : Surroundings) (store : Store) (words : List Text) : Outcome :=
  match Invocation.read words with
  | .error stop => Outcome.ofStop program around store stop
  | .ok invocation =>
    match Verdict.ofInvocation around store.read invocation with
    | .error cause => { ending := .failed cause, store := store }
    | .ok verdict => Outcome.ofVerdict around store verdict

end LabelTemplate.CommandLine
