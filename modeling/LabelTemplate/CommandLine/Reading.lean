import LabelTemplate.CommandLine.Word

/-!
# Reading a command line

The words are taken from left to right. An option takes its value from the word itself
or from the next word, if that one is plain. The first plain word is the operand; the
operand of a whole line takes everything behind it along. Words that nobody claims are
kept, and it is for the caller to complain about them.

An option takes effect as soon as it is taken, so of two errors in the values the left
one is reported, and a missing operand only if nothing else is wrong.
-/

namespace LabelTemplate.CommandLine

/-- Why reading ends early. -/
inductive Halt where
  /-- Help was asked for. -/
  | help
  /-- The command line is wrong. -/
  | misuse (e : UsageError)
deriving DecidableEq, Repr

/-- What has been read so far. -/
structure Reading (σ : Type) where
  /-- What the options have brought about. -/
  state : σ
  /-- The operand and what it took along; empty as long as there is none. -/
  operand : List Text := []
  /-- The options taken. -/
  taken : List Switch := []
  /-- The words that nobody claimed. -/
  leftOver : List Text := []

namespace Reading

variable {σ : Type}

/-- Leaves a word over. -/
def leave (r : Reading σ) (word : Text) : Reading σ := { r with leftOver := r.leftOver ++ [word] }

/-- Takes an option with a value. -/
def takeValue (effect : Switch → Text → σ → Except Refusal σ) (r : Reading σ) (s : Switch)
    (value : Text) : Except Halt (Reading σ) :=
  match effect s value r.state with
  | .ok state => .ok { r with state := state, taken := s :: r.taken }
  | .error cause => .error (.misuse (.refused s.name value cause))

/-- Takes all words. -/
def takeAll (form : Form) (effect : Switch → Text → σ → Except Refusal σ) :
    List (Word × Text) → Reading σ → Except Halt (Reading σ)
  | [], r => .ok r
  | (.plain, word) :: rest, r =>
    match form.operand, r.operand, rest with
    | .command, _, _ => .ok { r with operand := word :: rest.map Prod.snd }
    | .template, [], (.stop, _) :: rest => takeAll form effect rest { r with operand := [word] }
    | .template, [], rest => takeAll form effect rest { r with operand := [word] }
    | .template, _ :: _, rest => takeAll form effect rest (r.leave word)
  | (.stop, word) :: rest, r =>
    match form.operand, r.operand, rest with
    | .command, _, _ :: _ => .ok { r with operand := word :: rest.map Prod.snd }
    | .template, [], (.plain, next) :: rest =>
      takeAll form effect rest { r with operand := [next] }
    | _, _, rest => takeAll form effect rest (r.leave word)
  | (.help attached, _) :: _, _ =>
    match attached with
    | none => .error .help
    | some value => .error (.misuse (.needlessValue Word.helpName value))
  | (.option s attached, _) :: rest, r =>
    match s.placeholder?, attached, rest with
    | none, none, rest => do
      let r ← takeValue effect r s []
      takeAll form effect rest r
    | none, some value, _ => .error (.misuse (.needlessValue s.name value))
    | some _, some value, rest => do
      let r ← takeValue effect r s value
      takeAll form effect rest r
    | some _, none, (.plain, value) :: rest => do
      let r ← takeValue effect r s value
      takeAll form effect rest r
    | some _, none, _ => .error (.misuse (.noValue s.name))
  | (.unknown, word) :: rest, r => takeAll form effect rest (r.leave word)

/-- The names of what has to be there and is not. -/
def missing (form : Form) (r : Reading σ) : List Text :=
  (if r.operand.isEmpty then [form.operand.name] else [])
    ++ (form.required.filter fun s => !r.taken.contains s).map Switch.name

/-- Reads words in the light of a form. -/
def ofWords (form : Form) (effect : Switch → Text → σ → Except Refusal σ) (start : σ)
    (words : List Text) : Except Halt (Reading σ) := do
  let words ← (Word.classifyAll form.switches words).mapError .misuse
  let r ← takeAll form effect words { state := start }
  match missing form r with
  | [] => pure r
  | names => throw (.misuse (.missing names))

end Reading

end LabelTemplate.CommandLine
