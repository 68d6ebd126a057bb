import LabelTemplate.Value.Basic

/-!
# Checking values

A check either accepts a value or rejects it with faults. Each fault names the place
of the value inside what was checked and the reason. Checks of several values side
by side collect the faults of all of them, in order, so that one run shows
everything that has to be mended.
-/

namespace LabelTemplate

/-- Why a value is rejected. -/
inductive Reason where
  /-- A required value is absent. -/
  | missing
  /-- The name is none of the known kinds. -/
  | unknownKind
  /-- There is nothing that goes by this key. -/
  | unknownKey
  /-- Values under keys were expected. -/
  | notRecord
  /-- A text was expected. -/
  | notText
  /-- The bytes are those of no text. -/
  | notUnicode
  /-- An integer was expected. -/
  | notInteger
  /-- The text is no integer. -/
  | unreadableInteger
  /-- The number has a fraction. -/
  | fraction
  /-- The integer is too long to be read. -/
  | tooLarge
  /-- A finite number was expected. -/
  | notFinite
  /-- A number was expected. -/
  | notNumber
  /-- The text is no number. -/
  | unreadableNumber
  /-- A truth value was expected. -/
  | notBoolean
  /-- The value is none of the accepted words for yes and no. -/
  | unreadableBoolean
deriving DecidableEq, Repr

/-- The word for a reason. -/
def Reason.word : Reason → String
  | .missing => "missing"
  | .unknownKind => "enum"
  | .unknownKey => "extra_forbidden"
  | .notRecord => "model_type"
  | .notText => "string_type"
  | .notUnicode => "string_unicode"
  | .notInteger => "int_type"
  | .unreadableInteger => "int_parsing"
  | .fraction => "int_from_float"
  | .tooLarge => "int_parsing_size"
  | .notFinite => "finite_number"
  | .notNumber => "float_type"
  | .unreadableNumber => "float_parsing"
  | .notBoolean => "bool_type"
  | .unreadableBoolean => "bool_parsing"

/-- A rejected value: where it is, and why it is rejected. -/
structure Fault where
  /-- The keys that lead to the value, from the outside in. -/
  path : List String
  /-- Why it is rejected. -/
  reason : Reason
deriving DecidableEq, Repr

namespace Fault

/-- A fault seen from one level further out. -/
def within (key : String) (f : Fault) : Fault := { f with path := key :: f.path }

/-- The wording of a fault. -/
def message (f : Fault) : String := ".".intercalate f.path ++ ": " ++ f.reason.word

/-- The wording of several faults. -/
def messages (faults : List Fault) : String := "; ".intercalate (faults.map message)

end Fault

/-- The result of a check. -/
inductive Checked (α : Type) where
  /-- The value has the type that is wanted. -/
  | accepted (a : α)
  /-- It has not, for these reasons. -/
  | rejected (faults : List Fault)
deriving Repr

namespace Checked

variable {α β : Type}

/-- An accepted value, changed. -/
def map (f : α → β) : Checked α → Checked β
  | .accepted a => .accepted (f a)
  | .rejected faults => .rejected faults

/-- Two checks side by side: the faults of both are kept. -/
def seq : Checked (α → β) → Checked α → Checked β
  | .accepted f, .accepted a => .accepted (f a)
  | .accepted _, .rejected faults => .rejected faults
  | .rejected faults, .accepted _ => .rejected faults
  | .rejected faults, .rejected more => .rejected (faults ++ more)

instance : Applicative Checked where
  pure := .accepted
  seq f a := f.seq (a ())

/-- The faults seen from one level further out. -/
def within (key : String) : Checked α → Checked α
  | .accepted a => .accepted a
  | .rejected faults => .rejected (faults.map (·.within key))

/-- The check as a result that stops at the first failure. -/
def toExcept : Checked α → Except (List Fault) α
  | .accepted a => .ok a
  | .rejected faults => .error faults

/-- The check with further faults behind its own. -/
def butFor (more : List Fault) : Checked α → Checked α
  | .accepted a => if more.isEmpty then .accepted a else .rejected more
  | .rejected faults => .rejected (faults ++ more)

/-- A single fault right here. -/
def fault (reason : Reason) : Checked α := .rejected [{ path := [], reason := reason }]

/-- The check of the value under a key that has to be there. -/
def required (read : Value → Checked α) (key : String) (entries : List (Text × Value)) :
    Checked α :=
  match Value.lookup? key.toList entries with
  | some v => (read v).within key
  | none => (fault .missing).within key

/-- The check of the value under a key, or a default in its absence. -/
def optional (read : Value → Checked α) (key : String) (absent : α)
    (entries : List (Text × Value)) : Checked α :=
  match Value.lookup? key.toList entries with
  | some v => (read v).within key
  | none => .accepted absent

end Checked

end LabelTemplate
