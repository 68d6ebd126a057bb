import LabelTemplate.Text.Basic

/-!
# Tables of characters

A property of characters that a standard lists is kept as a short list of runs of
code points. Three kinds of list occur: closed ranges, for membership; closed ranges
with a value each; and runs with a common shift, for the letter case maps, where upper
and lower case letters often take turns and a run then has step two.
-/

namespace LabelTemplate

/-- Does a code point lie in one of the closed ranges? -/
def inRanges (ranges : List (Nat × Nat)) (c : Char) : Bool :=
  ranges.any fun (first, last) => first ≤ c.toNat && c.toNat ≤ last

/-- The value of the first closed range that has a character. -/
def rangeValue? {α : Type} (ranges : List (Nat × Nat × α)) (c : Char) : Option α :=
  (ranges.find? fun (first, last, _) => first ≤ c.toNat && c.toNat ≤ last).map fun (_, _, a) => a

/-- The code points `first, first + step, …, last`, each mapped `shift` further on. -/
structure ShiftedRun where
  /-- The least code point of the run. -/
  first : Nat
  /-- The greatest code point of the run. -/
  last : Nat
  /-- The distance between neighbours. -/
  step : Nat
  /-- What is added to a code point of the run. -/
  shift : Int

/-- Is this code point one of the run? -/
def ShiftedRun.has (run : ShiftedRun) (c : Char) : Bool :=
  run.first ≤ c.toNat && c.toNat ≤ run.last && (c.toNat - run.first) % run.step == 0

/-- A character moved by the first run that has it, and itself if none has. -/
def shiftBy (runs : List ShiftedRun) (c : Char) : Char :=
  match runs.find? (·.has c) with
  | some run => Char.ofNat (c.toNat + run.shift).toNat
  | none => c

end LabelTemplate
