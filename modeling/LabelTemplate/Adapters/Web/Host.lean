import LabelTemplate.Adapters.HostName.Network
import LabelTemplate.Adapters.Web.NumericHost
import LabelTemplate.Text.Lower
import LabelTemplate.Text.Quoted
import LabelTemplate.Text.Utf8

/-!
# Hosts

A host is given by numbers or by a name. Numbers stay as they are, if they are right. A
name in ASCII is put into lower case, with escapes for the characters that a name cannot
hold; nobody asks whether there could be such a name. Any other name is put into lower
case and has to be right label by label, since it goes by its Punycode.
-/

namespace LabelTemplate.Adapters.Web

/-- Why something is no host. -/
inductive HostError where
  /-- It looks like four numbers and is none. -/
  | notFourNumbers (host : Text)
  /-- What stands in brackets are no eight groups of digits. -/
  | notGroups (host : Text)
  /-- It is no name of a host. -/
  | notName (host : Text)
deriving DecidableEq, Repr

/-- The wording of a host error. -/
def HostError.message : HostError → String
  | .notFourNumbers host => "Invalid IPv4 address: " ++ String.ofList (Quoted.quote host)
  | .notGroups host => "Invalid IPv6 address: " ++ String.ofList (Quoted.quote host)
  | .notName host => "Invalid IDNA hostname: " ++ String.ofList (Quoted.quote host)

namespace Host

/-- The percent escapes of a character. -/
def percent (c : Char) : Text :=
  (Utf8.encodeChar c).flatMap fun b => '%' :: (Text.hex 2 b.toNat).map Char.toUpper

/-- A text with escapes for the characters that cannot stand for themselves. -/
def escape (safe : Char → Bool) (t : Text) : Text :=
  t.flatMap fun c => if safe c then [c] else percent c

/-- The characters of a name in ASCII that stand for themselves. -/
def isSafe (c : Char) : Bool :=
  c.isAlphanum || "-._~!$&'()*+,;=\"`\x7b\x7d%|\\".toList.contains c

/-- What stands between brackets, if that is all. -/
def bracketed? : Text → Option Text
  | '[' :: rest => if rest.getLast? == some ']' then some rest.dropLast else none
  | _ => none

/-- A host in its normal form. -/
def normal (host : Text) : Except HostError Text :=
  if NumericHost.looksLikeFourNumbers host then
    if NumericHost.isFourNumbers host then .ok host else .error (.notFourNumbers host)
  else match bracketed? host with
    | some groups => if NumericHost.isGroupHost groups then .ok host else .error (.notGroups host)
    | none =>
      if host.all isAscii then .ok (escape isSafe host.lower)
      else match HostName.network? host.lower with
        | some name => .ok name
        | none => .error (.notName host)

end Host

end LabelTemplate.Adapters.Web
