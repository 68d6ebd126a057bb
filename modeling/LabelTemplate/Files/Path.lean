import LabelTemplate.Text.Basic

/-!
# File paths

A path is a root and the names on the way, with empty steps and steps that stay in
place left out. Two leading slashes are a root of their own; any other number of
them is the usual one.

The stem of a name is what stands before its last dot. A dot at the beginning or at
the end of the name is part of the stem.

A file beside another one is named by a text that is a path of one step. Such a text
is kept as it is written, so a step in place in front of the name stays visible.
-/

namespace LabelTemplate

/-- A file path. -/
structure Path where
  /-- The root: empty for a path from the current folder. -/
  root : Text
  /-- The names on the way. -/
  names : List Text
deriving DecidableEq, Repr

namespace Path

/-- The root that some leading slashes stand for. -/
def rootOf (slashes : Nat) : Text :=
  if slashes = 0 then [] else if slashes = 2 then ['/', '/'] else ['/']

/-- The steps of a written path that lead to another place. -/
def steps (t : Text) : List Text :=
  (Text.splitOn '/' t).filter fun name => !name.isEmpty && name != ['.']

/-- Reads a path. -/
def ofText (t : Text) : Path where
  root := rootOf (t.takeWhile (· == '/')).length
  names := steps t

/-- The written form of a path. -/
def text (p : Path) : Text :=
  match p.root ++ Text.joinWith ['/'] p.names with
  | [] => ['.']
  | t => t

/-- The last name; empty if there is none. -/
def name (p : Path) : Text := p.names.getLast?.getD []

/-- A name without its last extension. -/
def stemOf (name : Text) : Text :=
  match Text.partitionLast? '.' name with
  | some (before, after) => if before.isEmpty || after.isEmpty then name else before
  | none => name

/-- The last name without its last extension. -/
def stem (p : Path) : Text := stemOf p.name

/-- Can this name a file beside another one: is it a path of one step with no slash at its ends? -/
def isFileName (t : Text) : Bool :=
  t.head? != some '/' && t.getLast? != some '/' && (steps t).length == 1

/-- The path of a file beside this one, if its name can be one. -/
def beside? (p : Path) (name : Text) : Option Path :=
  if isFileName name && !p.names.isEmpty then some { p with names := p.names.dropLast ++ [name] }
  else none

end Path

end LabelTemplate
