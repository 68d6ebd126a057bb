import LabelTemplate.Adapters.HostName.Composition
import LabelTemplate.Adapters.HostName.Joining
import LabelTemplate.Adapters.HostName.Permitted
import LabelTemplate.Adapters.HostName.Punycode
import LabelTemplate.Adapters.HostName.Script

/-!
# Labels

A host name is a row of labels. A label is right if every character in it is: most
characters are right anywhere or nowhere, some only next to certain others. Apart from
that, a label is in composed form, does not begin with a mark, has hyphens inside only,
and reads in one direction.

The network knows a label by ASCII characters. A label in ASCII stands for itself; any
other goes by its Punycode behind a sign that says so, and behind that sign there has to
be the Punycode of a label that is right.
-/

namespace LabelTemplate.Adapters.HostName

/-- Is this a digit of a number in an Arabic text? -/
def isArabicDigit (c : Char) : Bool := '\u0660' ≤ c && c ≤ '\u0669'

/-- Is this one of the digits that Persian and Urdu use in their place? -/
def isEasternArabicDigit (c : Char) : Bool := '\u06F0' ≤ c && c ≤ '\u06F9'

/--
Is a character right where it stands? `before` and `after` are what stands around it in
the label, the former read backwards.
-/
def isRight (before : Text) (c : Char) (after : Text) : Bool :=
  isPermitted c ||
    match c with
    | '\u200C' => Joining.followsVirama before || Joining.joins before after
    | '\u200D' => Joining.followsVirama before
    | '\u00B7' => before.head? == some 'l' && after.head? == some 'l'
    | '\u0375' => after.head?.any isGreek
    | '\u05F3' | '\u05F4' => before.head?.any isHebrew
    | '\u30FB' => (before ++ after).any isJapanese
    | _ =>
      (isArabicDigit c && !(before ++ after).any isEasternArabicDigit)
        || (isEasternArabicDigit c && !(before ++ after).any isArabicDigit)

/-- Are all characters right where they stand, behind some that are read backwards? -/
def allRight (before : Text) : Text → Bool
  | [] => true
  | c :: cs => isRight before c cs && allRight (c :: before) cs

/-- Are there hyphens inside the label only, and no two where a sign would have them? -/
def wellHyphened (label : Text) : Bool :=
  label.head? != some '-' && label.getLast? != some '-' && (label.drop 2).take 2 != ['-', '-']

/-- Is this a label? -/
def isLabel (label : Text) : Bool :=
  !label.isEmpty && Composition.isComposed label && wellHyphened label
    && !label.head?.any isMark && allRight [] label
    && Direction.wellOrdered (label.map Direction.ofChar)

/-- The sign in front of a Punycode. -/
def codedSign : Text := ['x', 'n', '-', '-']

/-- The greatest length of a label on the network. -/
def labelLimit : Nat := 63

/-- Does a label in ASCII stand for one that is right: itself, or the one that it is coded from? -/
def standsForLabel (label : Text) : Bool :=
  if codedSign.isPrefixOf label then
    let code := label.drop codedSign.length
    code.getLast? != some '-' && !code.isEmpty && (Punycode.decode? code).any isLabel
  else isLabel label

/-- A label in lower case as the network knows it. -/
def networkLabel? (label : Text) : Option Text := do
  let known ←
    if label.all isAscii then if standsForLabel label then some label else none
    else if isLabel label then some (codedSign ++ Punycode.encode label)
    else none
  if known.length ≤ labelLimit then some known else none

end LabelTemplate.Adapters.HostName
