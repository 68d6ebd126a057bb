import LabelTemplate.Value.Basic

/-!
# What a settings file holds

A settings file is a tree: single values, groups of values under keys, and sequences.
A key is a scalar like any other, so it need not be a text, and of several entries
under one key the last counts. A truth value and a number are one key with the whole
number they are equal to.
-/

namespace LabelTemplate.Settings

/-- A part of a settings file. -/
inductive Node where
  /-- A single value. -/
  | single (v : Value)
  /-- Parts under keys, in the order in which they are written. -/
  | group (entries : List (Value × Node))
  /-- A sequence of parts. -/
  | sequence (items : List Node)
deriving Inhabited

namespace Node

/-- Is this key a given text? -/
def isKey (name : Text) : Value → Bool
  | .text t => t == name
  | _ => false

/-- The part under a key; of several the last. -/
def lookup? (name : Text) (entries : List (Value × Node)) : Option Node :=
  (entries.reverse.find? fun entry => isKey name entry.1).map Prod.snd

/-- The whole number that a key counts as, if it counts as one. -/
def wholeKey? : Value → Option Int
  | .bool b => some (if b then 1 else 0)
  | .int n => some n
  | .float x => x.toInt?
  | _ => none

/-- Are these two one key? Of a value of another kind nothing is kept that could tell. -/
def sameKey : Value → Value → Bool
  | .null, .null => true
  | .text s, .text t => s == t
  | .bytes b, .bytes c => b == c
  | .float x, .float y => x == y || (x.toInt?.isSome && x.toInt? == y.toInt?)
  | v, w => (wholeKey? v).isSome && wholeKey? v == wholeKey? w

/-- The parts without those whose key comes again further behind. -/
def lasting : List (Value × Node) → List (Value × Node)
  | [] => []
  | entry :: entries =>
    if entries.any (sameKey entry.1 ·.1) then lasting entries else entry :: lasting entries

/-- What a setting sees of a part: a setting is a single value, of all else only the shape shows. -/
def seen : Node → Value
  | single v => v
  | group _ => .map []
  | sequence _ => .list []

/-- The setting that a part is: the value itself, or the default of a group. -/
def setting? : Node → Option Value
  | group parts => (lookup? "default".toList parts).map seen
  | node => some node.seen

/-- The name of a part's shape in messages. -/
def shapeName : Node → String
  | single .null => "NoneType"
  | single (.bool _) => "bool"
  | single (.int _) => "int"
  | single (.float _) => "float"
  | single (.text _) => "str"
  | single (.bytes _) => "bytes"
  | single (.other kind _) => kind
  | single (.list _) | sequence _ => "list"
  | single (.map _) | group _ => "dict"

/-- Does a part count as absent? -/
def isVoid : Node → Bool
  | single .null | single (.bool false) | single (.text []) | single (.bytes []) => true
  | group [] | sequence [] => true
  | single (.int n) => n = 0
  | single (.float x) => x.toInt? = some 0
  | single (.other _ isVoid) => isVoid
  | _ => false

end Node

end LabelTemplate.Settings
