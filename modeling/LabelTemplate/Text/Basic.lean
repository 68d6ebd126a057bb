/-!
# Texts

A text is the list of its characters, so that an offset counts characters and a
cut is a cut of a list. This file has the vocabulary that every other module
shares: where one text first occurs in another, what stands before and after
that place, and how a text falls into lines.

`cut?` is the only search. `contains`, `find?` and `partitionLast?` are read off
it, so one set of lemmas about `cut?` covers them all.
-/

namespace LabelTemplate

/-- A text is the list of its characters. -/
abbrev Text := List Char

/-- Is this an ASCII character? -/
def isAscii (c : Char) : Bool := c.toNat < 128

namespace Text

/-- What stands before and after the first occurrence of `pattern`. -/
def cut? (pattern : Text) : Text → Option (Text × Text)
  | [] => if pattern.isEmpty then some ([], []) else none
  | c :: cs =>
    if pattern.isPrefixOf (c :: cs) then some ([], (c :: cs).drop pattern.length)
    else (cut? pattern cs).map fun (before, after) => (c :: before, after)

/-- Does `pattern` occur anywhere? -/
def contains (pattern t : Text) : Bool := (cut? pattern t).isSome

/-- The offset of the first occurrence of `pattern`. -/
def find? (pattern t : Text) : Option Nat := (cut? pattern t).map fun (before, _) => before.length

/-- What stands before and after the last occurrence of the character `sep`. -/
def partitionLast? (sep : Char) (t : Text) : Option (Text × Text) :=
  (cut? [sep] t.reverse).map fun (before, after) => (after.reverse, before.reverse)

/--
Splits a text before the first place from which `p` holds of what follows; the
second half is empty if there is no such place.
-/
def splitBefore (p : Text → Bool) : Text → Text × Text
  | [] => ([], [])
  | c :: cs =>
    if p (c :: cs) then ([], c :: cs)
    else
      let (before, after) := splitBefore p cs
      (c :: before, after)

/-- The pieces of a text between the occurrences of `sep`: one more than there are of those. -/
def splitOn (sep : Char) : Text → List Text
  | [] => [[]]
  | c :: cs =>
    if c = sep then [] :: splitOn sep cs
    else match splitOn sep cs with
      | [] => [[c]]
      | first :: others => (c :: first) :: others

/-- The pieces with `sep` between them. -/
def joinWith (sep : Text) : List Text → Text
  | [] => []
  | [t] => t
  | t :: u :: rest => t ++ sep ++ joinWith sep (u :: rest)

/-- The lines of a text, without their line feeds. -/
def lines (t : Text) : List Text := splitOn '\n' t

/-- The lines with line feeds between them. -/
def unlines (ls : List Text) : Text := joinWith ['\n'] ls

/-- A text without the leading and trailing characters of a class. -/
def trimWhere (p : Char → Bool) (t : Text) : Text :=
  ((t.dropWhile p).reverse.dropWhile p).reverse

/-- A text without the trailing characters of a class. -/
def trimEndWhere (p : Char → Bool) (t : Text) : Text := (t.reverse.dropWhile p).reverse

/-- A text without `suffix`, if it ends in it. -/
def dropSuffix (suffix t : Text) : Text :=
  if suffix.isSuffixOf t then t.take (t.length - suffix.length) else t

/-- The decimal digits of an integer, after a minus sign if it is negative. -/
def ofInt (n : Int) : Text := (toString n).toList

/-- The decimal digits of a natural number. -/
def ofNat (n : Nat) : Text := (toString n).toList

/-- A text of at least `width` characters, filled with `fill` on the left. -/
def padStart (width : Nat) (fill : Char) (t : Text) : Text :=
  List.replicate (width - t.length) fill ++ t

/-- A text of at least `width` characters, filled with `fill` on the right. -/
def padEnd (width : Nat) (fill : Char) (t : Text) : Text :=
  t ++ List.replicate (width - t.length) fill

end Text

end LabelTemplate
