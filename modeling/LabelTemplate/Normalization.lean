import LabelTemplate.Command
import LabelTemplate.Text.Basic

/-!
# Normal order of lines

A template is brought into a fixed order before its fields are looked for. The
first line with the marker is the turning point: of the lines behind it, those with
a graphic call come first, in their old order, then all others in theirs. A
template without a marker stays as it is.
-/

namespace LabelTemplate.Normalization

/-- The lines in normal order, for any marker and any token of the lines to be moved up. -/
def normalizeLines (marker token : Text) (ls : List Text) : List Text :=
  let unmarked := fun line => !Text.contains marker line
  match ls.dropWhile unmarked with
  | [] => ls
  | turning :: later =>
    ls.takeWhile unmarked ++ turning ::
      (later.filter (Text.contains token) ++ later.filter fun line => !Text.contains token line)

/-- The text with its lines in normal order. -/
def normalizeBy (marker token t : Text) : Text :=
  Text.unlines (normalizeLines marker token (Text.lines t))

/-- The template with its lines in normal order: graphic calls directly behind the media type. -/
def normalize (t : Text) : Text := normalizeBy Command.gapMedia Command.graphicCall t

end LabelTemplate.Normalization
