import LabelTemplate.Field.Basic
import LabelTemplate.Files.Path
import LabelTemplate.Settings.Toolkit
import LabelTemplate.Text.Utf8

/-!
# What a run takes place in

Besides the files, a run depends on the environment, on what settings are made with and on what
can go wrong in writing and showing. A file is opened, which empties it, before anything is written
into it, so if writing breaks off the file is left with less than it held.

What most often cannot be written are bytes of the command line that are no text. Each of them
comes as a character of its own, and goes into values and paths like any other.
-/

namespace LabelTemplate.CommandLine

/-- What a run takes place in. -/
structure Surroundings where
  /-- What settings are made with. -/
  toolkit : Settings.Toolkit
  /-- The variables of the environment. -/
  environment : List (Text × Text) := []
  /-- How the names that tell fields apart are written, which are drawn at random. -/
  idText : FieldId → Text
  /-- Why the file at a path must not be opened for writing, if it must not. -/
  barred? : Path → Option ForeignError := fun _ => none
  /-- What a file is left with if writing a text into it breaks off, and why it does. -/
  breaksOff? : Path → Text → Option (List UInt8 × ForeignError) := fun _ _ => none
  /-- Why a text cannot be shown, if it cannot. -/
  unshown? : Text → Option ForeignError := fun _ => none

namespace Surroundings

/-- What of a text gets into the file at a path and, if that is not all of it, why. -/
def written (s : Surroundings) (path : Path) (t : Text) : List UInt8 × Option ForeignError :=
  match s.breaksOff? path t with
  | some (left, cause) => (left, some cause)
  | none => (Utf8.encode t, none)

/-- A text with a character that stands for a byte and not for itself. -/
def strayError : ForeignError := ⟨"UnicodeEncodeError", "surrogates not allowed"⟩

/--
Surroundings in which texts with stray characters cannot be written or shown. Such a text is looked
at as a whole when the file is open, so nothing of it is written.
-/
def withStray (s : Surroundings) (isStray : Char → Bool) : Surroundings :=
  { s with
    breaksOff? := fun _ t => if t.any isStray then some ([], strayError) else none
    unshown? := fun t => if t.any isStray then some strayError else none }

end Surroundings

end LabelTemplate.CommandLine
