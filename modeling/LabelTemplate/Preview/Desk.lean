import LabelTemplate.Preview.Scheduler
import LabelTemplate.Session.Basic

/-!
# Editing and previewing side by side

At a desk somebody edits, asks for previews, takes requests back and lets time pass, in
any order. A request is made with a way to build its document, not with the document:
what is on the desk when its time has come is what is drawn.
-/

namespace LabelTemplate

/-- What is being edited, and the scheduler that has previews of it drawn. -/
structure Desk (σ : Type) where
  /-- What is being edited; documents are built from it. -/
  content : σ
  /-- The scheduler; a request says how its document is built. -/
  scheduler : Scheduler (σ → Text)

namespace Desk

variable {σ : Type}

/-- What can happen at a desk. -/
inductive Step (σ : Type) where
  /-- What is being edited changes. -/
  | edit (change : σ → σ)
  /-- A preview is asked for. -/
  | trigger (provider : σ → Text) (label : Label)
  /-- The latest request is taken back. -/
  | cancel
  /-- Time passes. -/
  | sleep (time : Nat)
  /-- Time passes until the latest request is done. -/
  | wait

/--
The request for a preview of a session: its document is built when the time has come,
the measures of the label are those of the session as it is `now`.
-/
def Step.preview (session : σ → Session) (now : σ) : Step σ :=
  .trigger (fun later => (session later).previewDocument) (session now).label

/-- A desk at which nothing was asked for yet. -/
def new (delay : Nat) (listening : Bool) (content : σ) : Desk σ :=
  { content := content, scheduler := { delay := delay, listening := listening } }

/-- The document that is built in some way from what is on the desk. -/
def document (d : Desk σ) (provider : σ → Text) : Text := provider d.content

/-- The desk after something has happened. -/
def step (renderer : Renderer) (d : Desk σ) : Step σ → Desk σ
  | .edit change => { d with content := change d.content }
  | .trigger provider label => { d with scheduler := d.scheduler.trigger provider label }
  | .cancel => { d with scheduler := d.scheduler.cancel }
  | .sleep time => { d with scheduler := d.scheduler.sleep renderer d.document time }
  | .wait => { d with scheduler := d.scheduler.wait renderer d.document }

/-- The desk after all of several things have happened. -/
def after (renderer : Renderer) (d : Desk σ) (steps : List (Step σ)) : Desk σ :=
  steps.foldl (step renderer) d

end Desk

end LabelTemplate
