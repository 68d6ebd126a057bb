import LabelTemplate.Label
import LabelTemplate.Outcome

/-!
# Asking for previews while a user types

Every edit asks for a new preview, but only the last of a burst of edits should reach
the render service. So a request waits for a while; the next one cancels it. When the
time has come, the document is built from what the fields are *then*, and the service
is asked.

Nothing is taken for granted about the service. Each call of it may take another time
and come to another end, and when it is cancelled it may stop, or answer at once, or
go on drawing for as long as it likes and be cancelled again. What keeps an old picture
from the screen is the number of the request: only the latest one is delivered.

Time is a number that only `sleep` and `wait` move on. Requests and cancellations take
no time, and what they bring about happens when time next moves on. No two events fall
on the same instant.
-/

namespace LabelTemplate

/-- A call of the service. -/
structure Call where
  /-- The number of the request. -/
  generation : Nat
  /-- The document. -/
  document : Text
  /-- The measures of the label. -/
  label : Label
deriving DecidableEq, Repr

/-- What a call of the service comes to. -/
inductive Drawn where
  /-- A picture. -/
  | picture (image : List UInt8)
  /-- The service gives a reason why there is no picture. -/
  | refused (reason : Text)
  /-- Something else went wrong, which nobody takes care of. -/
  | failed (reason : Text)
deriving DecidableEq, Repr

/-- What becomes of a call from some moment on, unless it is cancelled. -/
inductive Prospect where
  /-- It stops at once and comes to nothing. -/
  | stops
  /-- It comes to an end after some time. -/
  | ends (after : Nat) (drawn : Drawn)
deriving DecidableEq, Repr

/-- A call that the service is at work on. -/
structure Drawing where
  /-- The call. -/
  call : Call
  /-- When the call was made. -/
  since : Nat
  /-- After how much time it was cancelled, each time that it was. -/
  cancellations : List Nat := []
  /-- When it comes to an end. -/
  due : Nat
  /-- What it then comes to. -/
  drawn : Drawn
deriving DecidableEq, Repr

/-- A service that draws labels, as far as the scheduler is concerned. -/
structure Renderer where
  /-- What becomes of a call that was cancelled after the given times, counted from the call. -/
  prospect : Call → List Nat → Prospect

namespace Renderer

/-- A call of the service from `now` on; absent if it stops. -/
def proceed (r : Renderer) (call : Call) (since : Nat) (cancellations : List Nat) (now : Nat) :
    Option Drawing :=
  match r.prospect call cancellations with
  | .stops => none
  | .ends after drawn =>
    some { call := call, since := since, cancellations := cancellations
           due := now + after, drawn := drawn }

end Renderer

/-- How far a request has come. -/
inductive Phase where
  /-- It waits until the given time. -/
  | waiting (due : Nat)
  /-- The service is at work on its call. -/
  | drawing (d : Drawing)
deriving DecidableEq, Repr

/-- A request that is not done; `π` says where its document comes from. -/
structure Task (π : Type) where
  /-- The number of the request. -/
  generation : Nat
  /-- The measures of the label when the request was made. -/
  label : Label
  /-- Where the document comes from when the time has come. -/
  provider : π
  /-- How far the request has come. -/
  phase : Phase
  /-- Whether the request was cancelled and has not noticed yet. -/
  cancelled : Bool := false

/-- What a request has come to when time has moved on. -/
inductive Progress (π : Type) where
  /-- It is still not done. -/
  | unfinished (task : Task π)
  /-- It is done, with what its call came to if it made one that came to anything. -/
  | finished (drawn : Option Drawn)

namespace Task

variable {π : Type}

/-- A request that takes notice of being cancelled; absent if that is the end of it. -/
def heed (t : Task π) (renderer : Renderer) (now : Nat) : Option (Task π) :=
  match t.cancelled, t.phase with
  | false, _ => some t
  | true, .waiting _ => none
  | true, .drawing d =>
    (renderer.proceed d.call d.since (d.cancellations ++ [now - d.since]) now).map fun d =>
      { t with phase := .drawing d, cancelled := false }

/-- The call that a request makes when its waiting time is over; an empty document makes none. -/
def call? (t : Task π) (document : π → Text) : Option Call :=
  if (document t.provider).isEmpty then none
  else some { generation := t.generation, document := document t.provider, label := t.label }

/-- A request while the service is at work on its call. -/
def draw (t : Task π) (limit : Nat) (d : Drawing) : Progress π :=
  if d.due ≤ limit then .finished (some d.drawn) else .unfinished { t with phase := .drawing d }

/-- A request whose waiting time is over at `due`: the call that it makes, and its progress. -/
def ask (t : Task π) (renderer : Renderer) (document : π → Text) (limit due : Nat) :
    Option Call × Progress π :=
  match t.call? document with
  | none => (none, .finished none)
  | some call =>
    (some call, match renderer.proceed call due [] due with
      | none => .finished none
      | some d => t.draw limit d)

/-- A request after time has moved on from `now` up to a limit. -/
def run (t : Task π) (renderer : Renderer) (document : π → Text) (now limit : Nat) :
    Option Call × Progress π :=
  match t.heed renderer now with
  | none => (none, .finished none)
  | some t =>
    match t.phase with
    | .waiting due =>
      if due ≤ limit then t.ask renderer document limit due else (none, .unfinished t)
    | .drawing d => (none, t.draw limit d)

/-- When a request will be done, if it is left alone from `now` on. -/
def doneAt (t : Task π) (renderer : Renderer) (document : π → Text) (now : Nat) : Nat :=
  match t.heed renderer now with
  | none => now
  | some t =>
    match t.phase with
    | .waiting due =>
      ((t.call? document).bind fun call => renderer.proceed call due [] due).elim due Drawing.due
    | .drawing d => d.due

end Task

/-- Asks for previews, one at a time. -/
structure Scheduler (π : Type) where
  /-- How long a request waits. -/
  delay : Nat
  /-- Whether somebody wants to see the previews. -/
  listening : Bool := true
  /-- The time. -/
  now : Nat := 0
  /-- The number of the latest request. -/
  generation : Nat := 0
  /-- The requests that are not done, the oldest first. -/
  running : List (Task π) := []
  /-- What the latest request came to, once it is done: a preview if any, or what went wrong. -/
  outcome : Except Text (Option Preview) := .ok none
  /-- The calls of the service. -/
  calls : List Call := []
  /-- The previews that were delivered. -/
  delivered : List Preview := []

namespace Scheduler

variable {π : Type}

/-- Cancels the latest request. Its number stays the latest one. -/
def cancel (s : Scheduler π) : Scheduler π :=
  { s with running := s.running.map fun t =>
      if t.generation = s.generation then { t with cancelled := true } else t }

/-- Makes a request in the place of the latest one. -/
def trigger (s : Scheduler π) (provider : π) (label : Label) : Scheduler π :=
  let task : Task π :=
    { generation := s.generation + 1, label := label, provider := provider
      phase := .waiting (s.now + s.delay) }
  { s.cancel with
    generation := s.generation + 1, running := s.cancel.running ++ [task], outcome := .ok none }

/-- The preview that an answer of the service is; what nobody takes care of is none. -/
def previewOf (generation : Nat) : Drawn → Except Text Preview
  | .picture image => .ok { generation := generation, image := some image }
  | .refused reason => .ok { generation := generation, error := some reason }
  | .failed reason => .error reason

/-- Takes in what a call came to; an outdated answer is dropped. -/
def complete (s : Scheduler π) (generation : Nat) (drawn : Drawn) : Scheduler π :=
  if generation = s.generation then
    match previewOf generation drawn with
    | .ok preview =>
      { s with
        outcome := .ok (some preview)
        delivered := if s.listening then s.delivered ++ [preview] else s.delivered }
    | .error reason => { s with outcome := .error reason }
  else s

/-- Notes a call of the service. -/
def note (s : Scheduler π) : Option Call → Scheduler π
  | some call => { s with calls := s.calls ++ [call] }
  | none => s

/-- One request after time has moved on up to a limit. -/
def runTask (renderer : Renderer) (document : π → Text) (now limit : Nat) (s : Scheduler π)
    (t : Task π) : Scheduler π :=
  let (call, progress) := t.run renderer document now limit
  let s := s.note call
  match progress with
  | .unfinished t => { s with running := s.running ++ [t] }
  | .finished (some drawn) => s.complete t.generation drawn
  | .finished none => s

/-- All requests after time has moved on up to a limit. -/
def advance (s : Scheduler π) (renderer : Renderer) (document : π → Text) (limit : Nat) :
    Scheduler π :=
  { s.running.foldl (runTask renderer document s.now limit) { s with running := [] } with
    now := limit }

/-- Lets time pass. -/
def sleep (s : Scheduler π) (renderer : Renderer) (document : π → Text) (time : Nat) :
    Scheduler π :=
  s.advance renderer document (s.now + time)

/-- When the latest request will be done, if it is left alone; now if it is done. -/
def doneAt (s : Scheduler π) (renderer : Renderer) (document : π → Text) : Nat :=
  match s.running.find? (·.generation == s.generation) with
  | none => s.now
  | some t => t.doneAt renderer document s.now

/-- Lets time pass until the latest request is done; `outcome` then is what it came to. -/
def wait (s : Scheduler π) (renderer : Renderer) (document : π → Text) : Scheduler π :=
  s.advance renderer document (max s.now (s.doneAt renderer document))

end Scheduler

end LabelTemplate
