import LabelTemplate.Adapters.HostName.Label

/-!
# Host names on the network

A host name is divided into labels by full stops, of which there are several in the
scripts of the world; on the network there is one. A full stop at the end is allowed: it
says that the name is complete.
-/

namespace LabelTemplate.Adapters.HostName

/-- The characters that divide the labels of a name. -/
def isDot (c : Char) : Bool := ['.', '\u3002', '\uFF0E', '\uFF61'].contains c

/-- The labels of a name. -/
def labels (name : Text) : List Text :=
  Text.splitOn '.' (name.map fun c => if isDot c then '.' else c)

/-- The greatest length of a name on the network, not counting a full stop at its end. -/
def nameLimit : Nat := 253

/-- A name in lower case as the network knows it, if it is right. -/
def network? (name : Text) : Option Text := do
  let labels := labels name
  let isComplete := labels.getLast? == some []
  let known ← (if isComplete then labels.dropLast else labels).mapM networkLabel?
  let joined := Text.joinWith ['.'] known
  if joined.length ≤ nameLimit && !known.isEmpty then
    some (if isComplete then joined ++ ['.'] else joined)
  else none

end LabelTemplate.Adapters.HostName
