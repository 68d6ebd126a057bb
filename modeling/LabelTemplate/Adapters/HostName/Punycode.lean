import LabelTemplate.Text.Basic

/-!
# Punycode

Names on the network are made of ASCII letters, digits and hyphens. Punycode writes any
other name with these: first the ASCII characters of the name, then a hyphen if there
are any, and then a number for each of the others. The numbers say how far to move on
through all places of the name for each code point in ascending order, and are written
digit by digit with a threshold that adapts to the numbers seen so far.

Reading goes the same way back and fails if the digits break off or lead beyond the last
code point.
-/

namespace LabelTemplate.Adapters.HostName.Punycode

/-- The number of digits. -/
def base : Nat := 36

/-- A digit: a letter or, from 26 on, a decimal digit. -/
def digit (n : Nat) : Char := Char.ofNat (if n < 26 then n + 'a'.toNat else n - 26 + '0'.toNat)

/-- The threshold of the digit at a place, `k` being its number times the base. -/
def threshold (bias k : Nat) : Nat := max 1 (min 26 (k - bias))

/-- The digits of a number from the place `k` on, the least significant first. -/
def digits (bias k n : Nat) : Text :=
  let t := threshold bias k
  if t ≤ n then digit (t + (n - t) % (base - t)) :: digits bias (k + base) ((n - t) / (base - t))
  else [digit n]
termination_by n
decreasing_by
  have positive : 1 ≤ threshold bias k := Nat.le_max_left _ _
  have smaller := Nat.div_le_self (n - threshold bias k) (base - threshold bias k)
  omega

/-- The bias for a number that has been scaled down, `k` being what was gained on the way. -/
def settle (k n : Nat) : Nat :=
  if 455 < n then settle (k + base) (n / 35) else k + base * n / (n + 38)
termination_by n
decreasing_by omega

/-- The bias after a number; `places` is how many characters are written by then. -/
def adapt (n places : Nat) (isFirst : Bool) : Nat :=
  let n := if isFirst then n / 700 else n / 2
  settle 0 (n + n / places)

/-- What the encoder knows. -/
structure State where
  /-- The digits written so far. -/
  written : Text := []
  /-- The next code point to be considered. -/
  point : Nat := 128
  /-- How far the place has moved on since the last number. -/
  delta : Nat := 0
  /-- The bias. -/
  bias : Nat := 72
  /-- How many characters are written. -/
  places : Nat

/-- Passes one character of the name at a code point; `basic` is the number of ASCII characters. -/
def pass (basic point : Nat) (s : State) (c : Char) : State :=
  if c.toNat < point then { s with delta := s.delta + 1 }
  else if c.toNat = point then
    { s with
      written := s.written ++ digits s.bias base s.delta
      bias := adapt s.delta (s.places + 1) (s.places == basic)
      delta := 0
      places := s.places + 1 }
  else s

/-- Passes the whole name at a code point. -/
def passAll (name : Text) (basic : Nat) (s : State) (point : Nat) : State :=
  let moved := { s with delta := s.delta + (point - s.point) * (s.places + 1) }
  let s := name.foldl (pass basic point) moved
  { s with delta := s.delta + 1, point := point + 1 }

/-- The Punycode of a name. -/
def encode (name : Text) : Text :=
  let basic := name.filter isAscii
  let points := ((name.filter (!isAscii ·)).map Char.toNat).mergeSort.eraseDups
  let s := points.foldl (passAll name basic.length) { places := basic.length }
  basic ++ (if basic.isEmpty then [] else ['-']) ++ s.written

/-- The value of a digit in lower case. -/
def digitValue? (c : Char) : Option Nat :=
  if 'a' ≤ c && c ≤ 'z' then some (c.toNat - 'a'.toNat)
  else if c.isDigit then some (c.toNat - '0'.toNat + 26)
  else none

/--
Reads a number from its digits, the least significant first: its value and what follows
it. `weight` is what the next digit counts, `k` its place times the base, and `value` what
the digits before it came to.
-/
def number? (bias : Nat) (k weight value : Nat) : Text → Option (Nat × Text)
  | [] => none
  | c :: cs =>
    match digitValue? c with
    | none => none
    | some d =>
      let t := threshold bias k
      if d < t then some (value + d * weight, cs)
      else number? bias (k + base) (weight * (base - t)) (value + d * weight) cs

/-- A number takes at least one digit. -/
theorem length_lt_of_number? {bias k weight value n : Nat} {t rest : Text}
    (h : number? bias k weight value t = some (n, rest)) : rest.length < t.length := by
  induction t generalizing k weight value with
  | nil => simp [number?] at h
  | cons c cs ih =>
    unfold number? at h
    split at h
    · simp at h
    · dsimp only at h
      split at h
      · simp only [Option.some.injEq, Prod.mk.injEq] at h
        rw [← h.2]
        simp
      · have := ih h
        simp only [List.length_cons]
        omega

/-- What the decoder knows. -/
structure Decoding where
  /-- The last code point. -/
  point : Nat := 128
  /-- The place behind the one where it went. -/
  place : Nat := 0
  /-- The bias. -/
  bias : Nat := 72
  /-- Whether nothing was read yet. -/
  isFirst : Bool := true
  /-- The characters of the name so far. -/
  name : Text

/-- Puts the next character into the name, `delta` places further on. -/
def insert? (s : Decoding) (delta : Nat) : Option Decoding :=
  let places := s.name.length + 1
  let point := s.point + (s.place + delta) / places
  let place := (s.place + delta) % places
  if point.isValidChar then
    some {
      point := point
      place := place + 1
      bias := adapt delta places s.isFirst
      isFirst := false
      name := s.name.take place ++ Char.ofNat point :: s.name.drop place }
  else none

/-- The name after all numbers that a text consists of. -/
def insertAll? (s : Decoding) (t : Text) : Option Text :=
  match t with
  | [] => some s.name
  | c :: cs =>
    match _h : number? s.bias base 1 0 (c :: cs) with
    | none => none
    | some (delta, rest) =>
      match insert? s delta with
      | none => none
      | some s => insertAll? s rest
termination_by t.length
decreasing_by exact length_lt_of_number? ‹_›

/-- The name that a Punycode in lower case stands for. -/
def decode? (t : Text) : Option Text :=
  let (basic, digits) := (Text.partitionLast? '-' t).getD ([], t)
  insertAll? { name := basic } digits

end LabelTemplate.Adapters.HostName.Punycode
