import LabelTemplate.CommandLine.Verdict

/-!
# What a run needs from outside

Which files a run may look at, and which environment variables set something. Both are
known before anything is carried out, so they can be fetched beforehand and the run
itself needs no more than what was fetched.
-/

namespace LabelTemplate.CommandLine

/-- The files that a request may look at. -/
def Invocation.filesRead (i : Invocation) : List Path :=
  let sources := match i.request with
    | .compile request => request.images.map fun given => Path.ofText (Verdict.splitImage given).1
    | _ => []
  (i.settingsFile.map Path.ofText).getD Verdict.usualSettings :: Path.ofText i.template :: sources

/-- A reader that knows what was fetched; there is nothing anywhere else. -/
def fetchedReader (fetched : List (Path × Except FileError (List UInt8))) : FileReader := fun p =>
  match fetched.find? (·.1 == p) with
  | some (_, result) => result
  | none => .error .notFound

/-- The names of the environment variables that set something, in upper case. -/
def variableNames : List String :=
  Settings.Section.all.flatMap fun k =>
    let whole := String.ofList Settings.variableStart ++ k.name
    (whole :: k.keys.map fun key => String.ofList k.variableStart ++ key).map String.toUpper

end LabelTemplate.CommandLine
