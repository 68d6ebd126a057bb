import LabelTemplate.Adapters.Yaml.Scalar
import LabelTemplate.Settings.Node

/-!
# Reading settings files

A settings file holds keys and values, one pair a line. What is indented deeper than
a key belongs to it: a group, a sequence whose items have a hyphen in front, or a
scalar. A scalar without quotes goes on over the following lines as long as they are
indented deeper than its key. A value may also be written as a group in braces or a
sequence in brackets. A comment goes from a number sign, at the beginning of a line or
after a space, to the end of the line.

That is what settings files are written in; everything else is refused as malformed, such as
scalars with an indicator in front, tags, anchors, directives and keys that are not written on one
line.

Every function here takes a text and gives what it has read and the rest of the text.
Behind a value, the rest begins with a new line.
-/

namespace LabelTemplate.Adapters.Yaml

open Scalar Settings

/-- Why a text is no settings file. -/
inductive ReadError where
  /-- The text has not the form of a settings file. -/
  | malformed
  /-- A scalar is not what it looks like. -/
  | scalar (cause : ScalarError)
deriving DecidableEq, Repr

/-- Something read from a settings file, unless that fails. -/
abbrev Read := Except ReadError

/-- The scalars without quotes that stand for parts of other groups, or for nothing at all. -/
def reserved : List Text := [['<', '<'], ['=']]

/-- A scalar without quotes as what it is. -/
def resolved (t : Text) : Read Value :=
  if reserved.contains t then .error .malformed else (Scalar.resolve t).mapError .scalar

/-- The greatest number of characters of a key. -/
def keyLimit : Nat := 1024

/-- Could this have been a key: is it written on one line, and not too long? -/
def isKeyText (written : Text) : Bool := written.length ≤ keyLimit && !written.any isBreak

/-! ## Lines -/

/-- Does a word end here? -/
def endsWord : Text → Bool
  | [] => true
  | c :: _ => isSpacing c

/-- The next place with something besides comments: its column, and the text there. -/
def written? (column : Nat) (inComment : Bool) : Text → Option (Nat × Text)
  | [] => none
  | c :: cs =>
    if isBreak c then written? 0 false cs
    else if inComment || c = '#' then written? (column + 1) true cs
    else if c = ' ' then written? (column + 1) false cs
    else some (column, c :: cs)

/-- What is written next, behind the end of a line. -/
def next? (t : Text) : Option (Nat × Text) := written? 0 false t

/-- What comes behind a line that says nothing any more. -/
def closeLine? (t : Text) : Option Text :=
  match t.dropWhile (· == ' ') with
  | [] => some []
  | c :: cs =>
    if isBreak c then some cs
    else if c = '#' then some ((cs.dropWhile (!isBreak ·)).drop 1)
    else none

/-- What comes behind a value: its line must not say anything more. -/
def closed {α : Type} (found : α × Text) : Read (α × Text) :=
  match closeLine? found.2 with
  | some rest => .ok (found.1, rest)
  | none => .error .malformed

/-- Does a line that marks the start or the end of a document begin here? -/
def isMarker (column : Nat) (t : Text) : Bool :=
  column = 0 && [['-', '-', '-'], ['.', '.', '.']].any (·.isPrefixOf t) && endsWord (t.drop 3)

/-! ## Scalars -/

/-- Does a scalar without quotes end here? -/
def endsPlain : Text → Bool
  | [] => true
  | ':' :: cs => endsWord cs
  | ' ' :: '#' :: _ => true
  | c :: _ => c == '\t' || isBreak c

/-- A scalar without quotes as far as it goes on this line. -/
def plainRun (t : Text) : Text × Text :=
  let (run, rest) := Text.splitBefore endsPlain t
  (Text.trimEndWhere (· == ' ') run, rest)

/-- The characters with a meaning of their own, with which no scalar without quotes begins. -/
def indicators : List Char := ",[]\x7b\x7d#&*!|>'\"%@\x60".toList

/-- Can a scalar without quotes begin here? -/
def startsPlain : Text → Bool
  | [] => false
  | c :: cs => !isSpacing c && !indicators.contains c && !("-?:".toList.contains c && endsWord cs)

/-- The line breaks up to the next line that says something, its column, and the text there. -/
def passBreaks (column : Nat) : Text → Text × Nat × Text
  | [] => ([], column, [])
  | c :: cs =>
    if isBreak c then
      let (breaks, place) := passBreaks 0 cs
      (keptBreak c :: breaks, place)
    else if c = ' ' then passBreaks (column + 1) cs
    else ([], column, c :: cs)

/-- What the following lines add to a scalar without quotes, from the given column on. -/
def plainLines (least : Nat) : Nat → Text → Text × Text
  | 0, t => ([], t)
  | fuel + 1, t =>
    match passBreaks 0 t with
    | (first :: others, column, u) =>
      let (run, rest) := plainRun u
      if column < least || isMarker column u || u.head? = some '#' || run.isEmpty then ([], t)
      else
        let (more, rest) := plainLines least fuel rest
        (folded first others ++ run ++ more, rest)
    | ([], _, _) => ([], t)

/-- A scalar without quotes. -/
def plain (least : Nat) (t : Text) : Text × Text :=
  let (run, rest) := plainRun t
  let (more, rest) := plainLines least rest.length rest
  (run ++ more, rest)

/-! ## Groups and sequences in braces and brackets -/

/-- The characters that end a scalar without quotes inside braces and brackets. -/
def flowMarks : List Char := ",[]\x7b\x7d".toList

/-- Does a scalar without quotes end here, inside braces and brackets? -/
def endsFlowPlain : Text → Bool
  | ':' :: cs => endsWord cs || cs.head?.any flowMarks.contains
  | c :: cs => endsPlain (c :: cs) || c == '?' || flowMarks.contains c
  | [] => true

/-- Can a scalar without quotes begin here, inside braces and brackets? -/
def startsFlowPlain : Text → Bool
  | c :: cs => startsPlain (c :: cs) && c != '?' && c != ':'
  | [] => false

/-- What comes next inside braces and brackets, behind white space and comments. -/
def flowNext (t : Text) : Text := ((next? t).map Prod.snd).getD []

/-- A scalar inside braces and brackets, and what comes behind it. -/
def flowScalar (t : Text) : Read (Value × Text) :=
  match quoted? t with
  | some (s, rest) => .ok (.text s, rest)
  | none =>
    if startsFlowPlain t then do
      let (run, rest) := Text.splitBefore endsFlowPlain t
      pure (← resolved (Text.trimEndWhere (· == ' ') run), rest)
    else .error .malformed

/-- A scalar and what comes behind the colon after it, if it is a key. -/
def flowKey (t : Text) : Read (Value × Option Text × Text) := do
  let (key, rest) ← flowScalar t
  match flowNext rest with
  | ':' :: behind =>
    if isKeyText (t.take (t.length - behind.length)) then pure (key, some behind, rest)
    else throw .malformed
  | _ => pure (key, none, rest)

/-- What comes behind a comma, or from the closing bracket on; there must be one of them. -/
def behindPart (closing : Char) (t : Text) : Read Text :=
  match flowNext t with
  | ',' :: rest => .ok rest
  | c :: rest => if c = closing then .ok (c :: rest) else .error .malformed
  | [] => .error .malformed

mutual

/-- A group or a sequence inside braces or brackets. -/
def flowNode? : Nat → Text → Option (Read (Node × Text))
  | 0, _ => none
  | fuel + 1, t =>
    match t with
    | '{' :: cs => some ((flowEntries fuel cs).map fun (entries, rest) => (.group entries, rest))
    | '[' :: cs => some ((flowItems fuel cs).map fun (items, rest) => (.sequence items, rest))
    | _ => none

/-- The value of an entry; nothing is a value too. -/
def flowValue : Nat → Text → Read (Node × Text)
  | 0, _ => .error .malformed
  | fuel + 1, t =>
    match flowNode? fuel (flowNext t), flowNext t with
    | some found, _ => found
    | none, c :: cs =>
      if flowMarks.contains c then .ok (.single .null, c :: cs)
      else (flowScalar (c :: cs)).map fun (v, rest) => (.single v, rest)
    | none, [] => .error .malformed

/-- The entries of a group in braces, up to the closing one. -/
def flowEntries : Nat → Text → Read (List (Value × Node) × Text)
  | 0, _ => .error .malformed
  | fuel + 1, t =>
    match flowNext t with
    | '}' :: rest => .ok ([], rest)
    | cs => do
      let (key, behind?, rest) ← flowKey cs
      let (node, rest) ← match behind? with
        | some behind => flowValue fuel behind
        | none => pure (.single .null, rest)
      let (others, rest) ← flowEntries fuel (← behindPart (Char.ofNat 0x7D) rest)
      pure ((key, node) :: others, rest)

/-- The items of a sequence in brackets, up to the closing one; a pair is a group of its own. -/
def flowItems : Nat → Text → Read (List Node × Text)
  | 0, _ => .error .malformed
  | fuel + 1, t =>
    match flowNext t with
    | ']' :: rest => .ok ([], rest)
    | cs => do
      let (item, rest) ← match flowNode? fuel cs with
        | some found => found
        | none => do
          match ← flowKey cs with
          | (key, some behind, _) => do
            let (node, rest) ← flowValue fuel behind
            pure (.group [(key, node)], rest)
          | (v, none, rest) => pure (.single v, rest)
      let (items, rest) ← flowItems fuel (← behindPart ']' rest)
      pure (item :: items, rest)

end

/-! ## Groups and sequences by indentation -/

/-- A key and what comes behind its colon, if there is a key here. -/
def key? (t : Text) : Option (Read Value × Text) := do
  let (key, rest) ← match quoted? t with
    | some (name, rest) => some (Except.ok (Value.text name), rest)
    | none =>
      if startsPlain t then
        let (run, rest) := plainRun t
        some (resolved run, rest)
      else none
  match rest.dropWhile (· == ' ') with
  | ':' :: behind =>
    if endsWord behind && isKeyText (t.take (t.length - behind.length)) then some (key, behind)
    else none
  | _ => none

/-- What comes behind the hyphen of an item, if there is an item here. -/
def item? : Text → Option Text
  | '-' :: cs => if endsWord cs then some cs else none
  | _ => none

/-- A value that begins on a line; its further lines begin at the given column at least. -/
def inline (least : Nat) (t : Text) : Read (Node × Text) :=
  match flowNode? (3 * t.length + 3) t, quoted? t with
  | some found, _ => found.bind closed
  | none, some (s, rest) => closed (.single (.text s), rest)
  | none, none =>
    if startsPlain t then do
      let (run, rest) := plain least t
      closed (.single (← resolved run), rest)
    else .error .malformed

mutual

/-- What is written at a column; further lines of a scalar begin at the column `least` at least. -/
def nodeAt : Nat → (least column : Nat) → Text → Read (Node × Text)
  | 0, _, _, _ => .error .malformed
  | fuel + 1, least, column, t =>
    if (item? t).isSome then
      (itemsAt fuel column t).map fun (items, rest) => (.sequence items, rest)
    else if (key? t).isSome then
      (entriesAt fuel column t).map fun (entries, rest) => (.group entries, rest)
    else inline least t

/-- What belongs to a key or a hyphen in a column. -/
def nodeBehind : Nat → (isKey : Bool) → (column : Nat) → Text → Read (Node × Text)
  | 0, _, _, _ => .error .malformed
  | fuel + 1, isKey, column, t =>
    match closeLine? t with
    | none =>
      let u := t.dropWhile (· == ' ')
      if isKey then inline (column + 1) u
      else nodeAt fuel (column + 1) (column + 1 + (t.length - u.length)) u
    | some rest =>
      match next? rest with
      | none => .ok (.single .null, [])
      | some (deeper, u) =>
        if column < deeper then nodeAt fuel (column + 1) deeper u
        else if isKey && deeper = column && (item? u).isSome then
          (itemsAt fuel column u).map fun (items, rest) => (.sequence items, rest)
        else .ok (.single .null, rest)

/-- The entries of a group whose keys stand in a column, the first one here. -/
def entriesAt : Nat → (column : Nat) → Text → Read (List (Value × Node) × Text)
  | 0, _, _ => .error .malformed
  | fuel + 1, column, t =>
    match key? t with
    | none => .error .malformed
    | some (key, behind) => do
      let key ← key
      let (node, rest) ← nodeBehind fuel true column behind
      match next? rest with
      | none => pure ([(key, node)], [])
      | some (other, u) =>
        if column < other then .error .malformed
        else if other = column && !isMarker other u then
          let (others, rest) ← entriesAt fuel column u
          pure ((key, node) :: others, rest)
        else pure ([(key, node)], rest)

/-- The items of a sequence whose hyphens stand in a column, the first one here. -/
def itemsAt : Nat → (column : Nat) → Text → Read (List Node × Text)
  | 0, _, _ => .error .malformed
  | fuel + 1, column, t =>
    match item? t with
    | none => .error .malformed
    | some behind => do
      let (node, rest) ← nodeBehind fuel false column behind
      match next? rest with
      | none => pure ([node], [])
      | some (other, u) =>
        if column < other then .error .malformed
        else if other = column && (item? u).isSome then
          let (others, rest) ← itemsAt fuel column u
          pure (node :: others, rest)
        else pure ([node], rest)

end

/-! ## The whole file -/

/-- What the lines of a document hold. -/
def body (t : Text) : Read (Node × Text) :=
  match next? t with
  | none => .ok (.single .null, [])
  | some (column, u) =>
    if isMarker column u then .ok (.single .null, t)
    else nodeAt (2 * t.length + 2) 0 column u

/-- A document, which may be marked where it starts. -/
def document (t : Text) : Read (Node × Text) :=
  match next? t with
  | some (0, '-' :: '-' :: '-' :: behind) =>
    if endsWord behind then
      match closeLine? behind with
      | some rest => body rest
      | none => inline 0 (behind.dropWhile (· == ' '))
    else body t
  | _ => body t

/-- Does nothing come any more but the mark of a document's end? -/
def isDone (t : Text) : Bool :=
  match next? t with
  | none => true
  | some (column, u) => isMarker column u && u.head? = some '.'

/-- A text without a byte order mark. -/
def dropOrderMark : Text → Text
  | c :: cs => if c.toNat = 0xFEFF then cs else c :: cs
  | [] => []

/-- Is this one of the characters that a settings file is written in? -/
def isWritable (c : Char) : Bool :=
  let n := c.toNat
  n = 0x09 || n = 0x0A || n = 0x0D || (0x20 ≤ n && n ≤ 0x7E) || n = 0x85
    || (0xA0 ≤ n && n ≤ 0xFFFD) || 0x10000 ≤ n

/-- Reads a settings file. -/
def read (t : Text) : Read Node := do
  if !t.all isWritable then throw .malformed
  let (node, rest) ← document (dropOrderMark t)
  if isDone rest then pure node else throw .malformed

end LabelTemplate.Adapters.Yaml
