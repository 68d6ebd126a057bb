import LabelTemplate.Text.Quoted

/-!
# Structured data as text

Data is written as JSON over several lines, two spaces deeper at every level. Texts
are shown as they are, except for the quote, the backslash and control characters.
An empty list or object is written on one line.
-/

namespace LabelTemplate

/-- Structured data. -/
inductive Json where
  /-- No value. -/
  | null
  /-- A truth value. -/
  | bool (b : Bool)
  /-- An integer. -/
  | int (n : Int)
  /-- A text. -/
  | text (t : Text)
  /-- A sequence. -/
  | list (items : List Json)
  /-- Values under keys. -/
  | object (entries : List (Text × Json))

namespace Json

/-- One character inside the quotes. -/
def escapeChar (c : Char) : Text :=
  if c = '"' || c = '\\' then ['\\', c]
  else if c = '\n' then ['\\', 'n']
  else if c = '\r' then ['\\', 'r']
  else if c = '\t' then ['\\', 't']
  else if c = Char.ofNat 8 then ['\\', 'b']
  else if c = Char.ofNat 12 then ['\\', 'f']
  else if c.toNat < 0x20 then '\\' :: 'u' :: Text.hex 4 c.toNat
  else [c]

/-- A text between quotes. -/
def quote (t : Text) : Text := '"' :: t.flatMap escapeChar ++ ['"']

/-- The beginning of a line at a level. -/
def newLine (level : Nat) : Text := '\n' :: List.replicate (2 * level) ' '

mutual

/-- The written form of data at a level. -/
def render (level : Nat) : Json → Text
  | null => "null".toList
  | bool true => "true".toList
  | bool false => "false".toList
  | int n => Text.ofInt n
  | text t => quote t
  | list [] => "[]".toList
  | list (item :: items) =>
    '[' :: newLine (level + 1) ++ render (level + 1) item ++ renderItems (level + 1) items
      ++ newLine level ++ [']']
  | object [] => [Char.ofNat 0x7B, Char.ofNat 0x7D]
  | object ((key, value) :: entries) =>
    Char.ofNat 0x7B :: newLine (level + 1) ++ quote key ++ ':' :: ' ' :: render (level + 1) value
      ++ renderEntries (level + 1) entries ++ newLine level ++ [Char.ofNat 0x7D]

/-- The items behind the first. -/
def renderItems (level : Nat) : List Json → Text
  | [] => []
  | item :: items => ',' :: newLine level ++ render level item ++ renderItems level items

/-- The entries behind the first. -/
def renderEntries (level : Nat) : List (Text × Json) → Text
  | [] => []
  | (key, value) :: entries =>
    ',' :: newLine level ++ quote key ++ ':' :: ' ' :: render level value
      ++ renderEntries level entries

end

end Json

end LabelTemplate
