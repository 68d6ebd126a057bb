import LabelTemplate.Foreign
import LabelTemplate.Settings.Basic
import LabelTemplate.Text.Utf8
import LabelTemplate.Warning

/-!
# The render service

A label is drawn by a service on the web. It is sent the document for a label of given
measures and answers with a picture, or with a status that says what went wrong and a
text that says why. Whatever goes wrong at the service or on the way to it is a render
error, for the user to read.

Requests are sent by a client from elsewhere. It can also fail in ways that are no render
errors, and such a failure is passed on as it is.
-/

namespace LabelTemplate.Rendering

/-- A request to the service. -/
structure Request where
  /-- The address. -/
  address : Text
  /-- The type of picture that is wanted. -/
  accept : Text
  /-- How many seconds to wait for an answer. -/
  timeoutSec : Binary64
  /-- What is sent: the document as bytes. -/
  body : List UInt8
deriving DecidableEq, Repr

/-- The type of what a request sends. -/
def Request.contentType : String := "application/x-www-form-urlencoded"

/-- What comes of a request. -/
inductive Posted where
  /-- An answer with a status, its bytes, and these as a text. -/
  | answered (status : Nat) (body : List UInt8) (text : Text)
  /-- There is no answer, or no such address. -/
  | unanswered (reason : Text)
  /-- The client fails in another way. -/
  | broken (cause : ForeignError)
deriving DecidableEq, Repr

/-- Why there is no picture. -/
inductive Failure where
  /-- The service did not answer. -/
  | unanswered (reason : Text)
  /-- The service refused the document; the text of its answer. -/
  | refused (status : Nat) (text : Text)
  /-- The client failed in another way. -/
  | foreign (cause : ForeignError)
deriving DecidableEq, Repr

/-- The reason that a refusal gives: its text, or else its status. -/
def refusalText (status : Nat) (text : Text) : Text :=
  match text.trim with
  | [] => "HTTP ".toList ++ Text.ofNat status
  | reason => reason

namespace Failure

/-- The wording of a failure. -/
def message : Failure → String
  | .unanswered reason => "渲染服务请求失败: " ++ String.ofList reason
  | .refused status text => String.ofList (refusalText status text)
  | .foreign cause => cause.message

/-- What is reported of a failure. -/
def warnings : Failure → List Warning
  | .refused status text => [.renderingFailed status (refusalText status text)]
  | .unanswered _ | .foreign _ => []

end Failure

/-- The address for a label: the service's, the resolution and the size. -/
def addressOf (settings : RenderSettings) (label : Label) : Text :=
  Text.trimEndWhere (· == '/') settings.baseUrl ++ "/v1/printers/".toList ++ Text.ofInt label.dpmm
    ++ "dpmm/labels/".toList ++ label.sizeText ++ "/0/".toList

/-- The request for a label. -/
def request (settings : RenderSettings) (label : Label) (document : Text) : Request where
  address := addressOf settings label
  accept := settings.accept
  timeoutSec := settings.timeoutSec
  body := Utf8.encode document

/-- Does a status mean that the service refused the document? -/
def isRefusal (status : Nat) : Bool := 400 ≤ status && status < 600

/-- The picture that came of a request. -/
def Posted.picture : Posted → Except Failure (List UInt8)
  | answered status body text =>
    if isRefusal status then .error (.refused status text) else .ok body
  | unanswered reason => .error (.unanswered reason)
  | broken cause => .error (.foreign cause)

/-- Asks the service for a picture, by way of a client. -/
def render (client : Request → Posted) (settings : RenderSettings) (label : Label)
    (document : Text) : Except Failure (List UInt8) :=
  (client (request settings label document)).picture

end LabelTemplate.Rendering
