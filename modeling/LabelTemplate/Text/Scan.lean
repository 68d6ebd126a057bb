import LabelTemplate.Text.Basic

/-!
# Scanning a text for matches

A recogniser says whether a match starts right here, and how long it is. A scan
asks it at each place from the left and, after a match, goes on behind it. So the
matches of a scan are the leftmost ones and do not overlap.

`pieces` is the scan itself: the text cut into single characters that start no
match and into matches. Everything else is read off the pieces: `hits` lists the
matches with their offsets, `replace` puts something in their place.

The scan is structural in the text. The number it carries is how much of the
current match is still to be passed over; it keeps the recursion on the list
itself where a jump behind the match would not.
-/

namespace LabelTemplate.Scan

/--
Whether a match starts at the beginning of the given text: what was found and how
many characters it takes. A match of no characters counts as one character long.
-/
abbrev Recogniser (α : Type) := Text → Option (α × Nat)

/-- A part of a scanned text. -/
inductive Piece (α : Type) where
  /-- A character outside all matches. -/
  | plain (c : Char)
  /-- A match: what was found there, and its characters. -/
  | hit (found : α) (raw : Text)
deriving Repr

/-- The characters that a piece stands for. -/
def Piece.text {α : Type} : Piece α → Text
  | .plain c => [c]
  | .hit _ raw => raw

/-- The pieces of a text whose first `skip` characters belong to an earlier match. -/
def piecesFrom {α : Type} (recognise : Recogniser α) : Nat → Text → List (Piece α)
  | _, [] => []
  | skip + 1, _ :: cs => piecesFrom recognise skip cs
  | 0, c :: cs =>
    match recognise (c :: cs) with
    | some (found, length) =>
      .hit found (c :: cs.take (length - 1)) :: piecesFrom recognise (length - 1) cs
    | none => .plain c :: piecesFrom recognise 0 cs

/-- The pieces of a text. -/
def pieces {α : Type} (recognise : Recogniser α) (t : Text) : List (Piece α) :=
  piecesFrom recognise 0 t

/-- The matches among pieces that start at a given offset, each with its own offset. -/
def hitsFrom {α : Type} : Nat → List (Piece α) → List (Nat × α)
  | _, [] => []
  | offset, .plain _ :: rest => hitsFrom (offset + 1) rest
  | offset, .hit found raw :: rest => (offset, found) :: hitsFrom (offset + raw.length) rest

/-- The matches of a text with their offsets. -/
def hits {α : Type} (recognise : Recogniser α) (t : Text) : List (Nat × α) :=
  hitsFrom 0 (pieces recognise t)

/-- What the matches of a text are, in order. -/
def found {α : Type} (recognise : Recogniser α) (t : Text) : List α :=
  (hits recognise t).map Prod.snd

/-- The text with each match replaced by what `replacement` makes of it. -/
def replace {α : Type} (recognise : Recogniser α) (replacement : α → Text) (t : Text) : Text :=
  (pieces recognise t).flatMap fun
    | .plain c => [c]
    | .hit a _ => replacement a

/-- The recogniser of one fixed text. -/
def literal (pattern : Text) : Recogniser Unit := fun t =>
  if pattern.isPrefixOf t then some ((), pattern.length) else none

end LabelTemplate.Scan

namespace LabelTemplate.Text

/-- The text with every occurrence of `pattern` replaced, from the left and without overlap. -/
def replaceAll (pattern replacement t : Text) : Text :=
  Scan.replace (Scan.literal pattern) (fun _ => replacement) t

end LabelTemplate.Text
