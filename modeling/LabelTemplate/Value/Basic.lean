import LabelTemplate.Numeral.Binary64

/-!
# Untyped values

Settings files, environment variables and callers hand over values whose types are
not known yet. A value is one of the shapes below; the modules beside this one
check it against the type that is wanted.
-/

namespace LabelTemplate

/-- A value whose type is not known yet. -/
inductive Value where
  /-- No value. -/
  | null
  /-- A truth value. -/
  | bool (b : Bool)
  /-- An integer. -/
  | int (n : Int)
  /-- A number with a fraction or an exponent. -/
  | float (x : Binary64)
  /-- A text. -/
  | text (t : Text)
  /-- Bytes. -/
  | bytes (b : List UInt8)
  /--
  A value of another kind, such as a day or a set, that nothing here is read from. Only its kind
  shows, and whether it counts as empty.
  -/
  | other (kind : String) (isVoid : Bool)
  /-- A sequence of values. -/
  | list (items : List Value)
  /-- Values under keys, in the order in which they were written. -/
  | map (entries : List (Text × Value))
deriving Inhabited

namespace Value

/-- The value under a key; of several the last. -/
def lookup? (key : Text) (entries : List (Text × Value)) : Option Value :=
  (entries.reverse.find? (·.1 == key)).map Prod.snd

/-- Is this a value under keys? -/
def isMap : Value → Bool
  | .map _ => true
  | _ => false

end Value

end LabelTemplate
