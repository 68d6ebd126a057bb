import LabelTemplate.Adapters.Settings
import LabelTemplate.CommandLine.Help
import LabelTemplate.CommandLine.Preparation

/-!
# The program

Fetches what a run needs, carries out the request and does what it comes to. Nothing
is decided here.
-/

namespace LabelTemplate.Program

open CommandLine

/-- The name of the program. -/
def name : Text := "label-template".toList

/-- The file error that an error of the system is. -/
def fileError : IO.Error → Option FileError
  | .noFileOrDirectory .. => some .notFound
  | .inappropriateType _ code _ =>
    some (if code = 21 then .isFolder else .notFolder)
  | _ => none

/-- Fetches the file at a path. -/
def fetch (p : Path) : IO (Path × Except FileError (List UInt8)) := do
  try
    let bytes ← IO.FS.readBinFile (String.ofList p.text)
    return (p, .ok bytes.toList)
  catch e =>
    match fileError e with
    | some cause => return (p, .error cause)
    | none => throw e

/-- Fetches the environment variables that set something. -/
def environment : IO (List (Text × Text)) := do
  let values ← variableNames.mapM fun variable_ => do
    let value ← IO.getEnv variable_
    return value.map fun v => (variable_.toList, v.toList)
  return values.filterMap id

/-- Draws how the names that tell fields apart are written: random up to the last part. -/
def drawIdText : IO (FieldId → Text) := do
  let bytes ← IO.getRandomBytes 10
  let digits := bytes.toList.flatMap fun b => Text.hex 2 b.toNat
  let start := digits.take 8 ++ '-' :: (digits.drop 8).take 4
    ++ '-' :: '4' :: (digits.drop 12).take 3 ++ '-' :: 'a' :: (digits.drop 15).take 3 ++ ['-']
  return fun
    | .found number => start ++ Text.hex 12 number
    | .named t => t

/-- Complains and ends with a code. -/
def complain (code : UInt32) (text : Text) : IO UInt32 := do
  IO.eprint (String.ofList text)
  return code

/-- Does what a request comes to. -/
def conclude : Verdict → IO UInt32
  | .shows t => do
    IO.print (String.ofList t)
    return 0
  | .refuses code reason => complain code.toUInt32 (reason ++ ['\n'])
  | .writes path content => do
    try
      IO.FS.writeBinFile (String.ofList path.text) ⟨(Utf8.encode content).toArray⟩
      IO.println (String.ofList path.text)
      return 0
    catch e =>
      match fileError e with
      | some cause => complain 1 ((Failure.file path cause).message.toList ++ ['\n'])
      | none => throw e

/-- Ends a run that does not get beyond its command line. -/
def stop (s : Stop) : IO UInt32 := do
  let form := (s.command.map Form.ofCommand).getD Form.line
  match s.halt with
  | .help =>
    IO.print (String.ofList (Help.text name form))
    return 0
  | .misuse e =>
    complain 2 (Help.usage name form ++ Help.programOf name form ++ ": error: ".toList
      ++ e.message.toList ++ ['\n'])

/-- Runs the program. -/
def run (arguments : List String) : IO UInt32 := do
  match Invocation.read (arguments.map String.toList) with
  | .error s => stop s
  | .ok invocation =>
    let fetched ← invocation.filesRead.mapM fetch
    let around : Surroundings :=
      { toolkit := Adapters.toolkit, environment := ← environment, idText := ← drawIdText }
    match Verdict.ofInvocation around (fetchedReader fetched) invocation with
    | .ok verdict => conclude verdict
    | .error cause => complain 1 (cause.message.toList ++ ['\n'])

end LabelTemplate.Program

/-- Runs the program. -/
def main (arguments : List String) : IO UInt32 := LabelTemplate.Program.run arguments
