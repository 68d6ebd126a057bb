import LabelTemplate.Adapters.Web.Address
import LabelTemplate.Rendering.Service

/-!
# A client for web requests

Puts the address of a request into its normal form, sends the request and takes the answer in.
Two mistakes in an address are found out late: a request whose head is not in ASCII is never sent,
and the answer to one without a host cannot be taken in.
-/

namespace LabelTemplate.Adapters.Web

open Rendering

/-- A request as it is sent. -/
structure Sent where
  /-- The address. -/
  address : NormalAddress
  /-- The request. -/
  request : Request
deriving DecidableEq, Repr

/-- The method of a request. -/
def Sent.method : String := "POST"

/-- What comes back from the service. -/
inductive Answer where
  /-- An answer with a status and its bytes. -/
  | response (status : Nat) (body : List UInt8)
  /-- No answer, for a reason. -/
  | unreachable (reason : Text)
deriving DecidableEq, Repr

/-- What of a text is not in ASCII: where that starts, and its characters. -/
def firstNotAscii (t : Text) : Nat × Text :=
  ((t.takeWhile isAscii).length, (t.dropWhile isAscii).takeWhile (!isAscii ·))

/-- A text in the head of a request that is not in ASCII. -/
def notAscii (t : Text) : ForeignError :=
  let (offset, run) := firstNotAscii t
  let what := match run with
    | [c] =>
      "character '" ++ String.ofList (Quoted.escapeCode c) ++ "' in position " ++ toString offset
    | _ =>
      "characters in position " ++ toString offset ++ "-" ++ toString (offset + run.length - 1)
  ⟨"UnicodeEncodeError", "'ascii' codec can't encode " ++ what ++ ": ordinal not in range(128)"⟩

/-- An answer to a request whose address, in its normal form, has no host. -/
def noHost (address : NormalAddress) : ForeignError :=
  ⟨"ValueError", "unknown url type: " ++ String.ofList (Quoted.quote address.text)⟩

/-- An answer, taken in. -/
def taken (address : NormalAddress) : Answer → Posted
  | .unreachable reason => .unanswered reason
  | .response status body =>
    if address.leadsToHost then .answered status body (Utf8.decode body)
    else .broken (noHost address)

/-- Sends a request to a service: the request as it was sent, if it was, and what came of it. -/
def exchange (service : Sent → Answer) (r : Request) : Option Sent × Posted :=
  match Address.normal r.address with
  | .error cause => (none, .unanswered cause.message.toList)
  | .ok address =>
    match [r.accept, address.place].find? (!·.all isAscii) with
    | some text => (none, .broken (notAscii text))
    | none =>
      let sent : Sent := { address := address, request := r }
      (some sent, taken address (service sent))

end LabelTemplate.Adapters.Web
