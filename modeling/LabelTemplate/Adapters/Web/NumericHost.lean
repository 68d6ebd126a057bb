import LabelTemplate.Text.Basic

/-!
# Numeric hosts

A host need not have a name. It may be given by four decimal numbers with full stops
between them, or, in brackets, by eight groups of hexadecimal digits with colons between
them. Of the groups, one run of zeros may be left out; the last two may be written as
four decimal numbers. A percent sign and the name of a network card may follow.
-/

namespace LabelTemplate.Adapters.Web.NumericHost

/-- Is this one of four numbers: up to 255, and without a zero in front? -/
def isOctet (t : Text) : Bool :=
  !t.isEmpty && t.all Char.isDigit && (t == ['0'] || t.head? != some '0') && t.length ≤ 3
    && (t.foldl (fun n c => 10 * n + (c.toNat - '0'.toNat)) 0) ≤ 255

/-- Are these four numbers with full stops between them? -/
def isFourNumbers (t : Text) : Bool :=
  let parts := Text.splitOn '.' t
  parts.length == 4 && parts.all isOctet

/-- Does this look like four numbers, whatever their size? -/
def looksLikeFourNumbers (t : Text) : Bool :=
  let parts := Text.splitOn '.' t
  parts.length == 4 && parts.all fun part => !part.isEmpty && part.all Char.isDigit

/-- Is this a hexadecimal digit? -/
def isHexDigit (c : Char) : Bool :=
  c.isDigit || ('a' ≤ c && c ≤ 'f') || ('A' ≤ c && c ≤ 'F')

/-- Is this one of the eight groups? -/
def isGroup (t : Text) : Bool := !t.isEmpty && t.length ≤ 4 && t.all isHexDigit

/-- How many groups are written here; four numbers at the end count for two. -/
def countGroups? : List Text → Option Nat
  | [] => some 0
  | [last] => if isFourNumbers last then some 2 else if isGroup last then some 1 else none
  | part :: rest => if isGroup part then (countGroups? rest).map (· + 1) else none

/-- The parts of a text between colons; none if it is empty. -/
def colonParts (t : Text) : List Text := if t.isEmpty then [] else Text.splitOn ':' t

/-- Are these eight groups, or fewer with a gap for the zeros that were left out? -/
def isEightGroups (t : Text) : Bool :=
  match Text.cut? [':', ':'] t with
  | none => countGroups? (colonParts t) == some 8
  | some (before, after) =>
    (colonParts before).all isGroup
      && (countGroups? (colonParts after)).any fun n => (colonParts before).length + n ≤ 7

/-- Are these eight groups, perhaps with the name of a network card? -/
def isGroupHost (t : Text) : Bool :=
  match Text.cut? ['%'] t with
  | none => isEightGroups t
  | some (groups, card) => isEightGroups groups && !card.isEmpty && card.all (· != '%')

end LabelTemplate.Adapters.Web.NumericHost
