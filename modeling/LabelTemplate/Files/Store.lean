import LabelTemplate.Files.Path

/-!
# Stores of files

A store is what a run of the program sees of the files: which files there are, what
they hold, and in which folder the run takes place. A place in the store is the list
of names on the way from the root to it.

A place is a folder if a file lies below it or if the current folder is there or
below it; there are no other empty folders. A path is followed step by step, and each
step must start from a folder; an empty step, between two slashes, stays in place.
Writing changes one file and makes no folders.
-/

namespace LabelTemplate

/-- Why a file cannot be read or written. -/
inductive FileError where
  /-- There is nothing at the path. -/
  | notFound
  /-- A step of the path starts from a file. -/
  | notFolder
  /-- There is a folder at the path. -/
  | isFolder
deriving DecidableEq, Repr

/-- Reads the file at a path. -/
abbrev FileReader := Path → Except FileError (List UInt8)

/-- A store of files. -/
structure Store where
  /-- The place of the current folder. -/
  current : List Text := []
  /-- The place and the bytes of each file. -/
  files : List (List Text × List UInt8)
deriving DecidableEq, Repr

namespace Store

/-- The bytes of the file at a place. -/
def bytesAt? (s : Store) (place : List Text) : Option (List UInt8) :=
  (s.files.find? (·.1 == place)).map Prod.snd

/-- Is there a folder at a place? -/
def isFolder (s : Store) (place : List Text) : Bool :=
  place.isPrefixOf s.current ||
    s.files.any fun (file, _) => place.isPrefixOf file && place != file

/-- Follows steps from a place. -/
def follow (s : Store) (place : List Text) : List Text → Except FileError (List Text)
  | [] => .ok place
  | step :: steps =>
    if s.isFolder place then
      if step.isEmpty || step = ['.'] then follow s place steps
      else if step = ['.', '.'] then follow s place.dropLast steps
      else follow s (place ++ [step]) steps
    else if (s.bytesAt? place).isSome then .error .notFolder
    else .error .notFound

/-- The place that a path leads to. -/
def locate (s : Store) (p : Path) : Except FileError (List Text) :=
  s.follow (if p.root.isEmpty then s.current else []) (p.names.flatMap (Text.splitOn '/'))

/-- Reads the file at a path. -/
def read (s : Store) : FileReader := fun p => do
  let place ← s.locate p
  if s.isFolder place then throw .isFolder
  match s.bytesAt? place with
  | some bytes => pure bytes
  | none => throw .notFound

/-- The files with other bytes at a place. -/
def put (place : List Text) (bytes : List UInt8) :
    List (List Text × List UInt8) → List (List Text × List UInt8)
  | [] => [(place, bytes)]
  | file :: files =>
    if file.1 = place then (place, bytes) :: files else file :: put place bytes files

/-- Writes the file at a path. -/
def write (s : Store) (p : Path) (bytes : List UInt8) : Except FileError Store := do
  let place ← s.locate p
  if s.isFolder place then throw .isFolder
  pure { s with files := put place bytes s.files }

end Store

end LabelTemplate
