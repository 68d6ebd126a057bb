import LabelTemplate.Proofs.Preview.Requests

/-!
# Reaching a time undisturbed

What comes of a request depends on whether the clock gets to certain times before
anything else is asked for or the request is taken back. `Reaches` says so in terms of
the steps of a run, and which desk it is at which the time is reached. From it follows
when a request should call the service and what should be delivered of it: that is what
`Request.Calls` and `Request.Delivers` say, without a look at the scheduler's lists.
-/

namespace LabelTemplate

variable {σ : Type}

namespace Desk

/-- Does a step leave the latest request alone? -/
def Step.quiet : Step σ → Bool
  | .trigger _ _ | .cancel => false
  | .edit _ | .sleep _ | .wait => true

/--
In the course of the steps the clock reaches a time before anything is asked for or taken
back, and `v` is the desk as it is then.
-/
def Reaches (renderer : Renderer) (d : Desk σ) (steps : List (Step σ)) (time : Nat)
    (v : Desk σ) : Prop :=
  ∃ before st later, steps = before ++ st :: later ∧ (∀ s ∈ before, s.quiet) ∧
    v = d.after renderer before ∧
    v.scheduler.now < time ∧ time ≤ (v.step renderer st).scheduler.now

/-- A request, with what happened before it and what happened after it. -/
structure Request (σ : Type) where
  /-- What happened before it. -/
  before : List (Step σ)
  /-- How its document is built. -/
  provider : σ → Text
  /-- The measures of the label. -/
  label : Label
  /-- What happened after it. -/
  later : List (Step σ)

namespace Request

/-- The request is made in the course of the steps. -/
def In (r : Request σ) (steps : List (Step σ)) : Prop :=
  steps = r.before ++ .trigger r.provider r.label :: r.later

/-- The number of a request. -/
def number (r : Request σ) : Nat := requests r.before + 1

/-- The desk when the request has been made. -/
def made (r : Request σ) (renderer : Renderer) (start : Desk σ) : Desk σ :=
  (start.after renderer r.before).step renderer (.trigger r.provider r.label)

/-- The time until which a request waits. -/
def due (r : Request σ) (renderer : Renderer) (start : Desk σ) : Nat :=
  (r.made renderer start).scheduler.now + start.scheduler.delay

/--
A request calls the service if the clock reaches the end of its waiting time undisturbed
and there then is a document.
-/
def Calls (r : Request σ) (renderer : Renderer) (start : Desk σ) (call : Call) : Prop :=
  ∃ v, Reaches renderer (r.made renderer start) r.later (r.due renderer start) v ∧
    r.provider v.content ≠ [] ∧
    call = { generation := r.number, document := r.provider v.content, label := r.label }

/--
A preview of a request is delivered if it calls the service and the clock reaches the end
of the call undisturbed as well: the picture, or the reason that the service gives.
-/
def Delivers (r : Request σ) (renderer : Renderer) (start : Desk σ) (preview : Preview) : Prop :=
  ∃ call latency drawn v, r.Calls renderer start call ∧
    renderer.prospect call [] = .ends latency drawn ∧
    Reaches renderer (r.made renderer start) r.later (r.due renderer start + latency) v ∧
    ((∃ image, drawn = .picture image ∧
        preview = { generation := r.number, image := some image }) ∨
      ∃ reason, drawn = .refused reason ∧
        preview = { generation := r.number, error := some reason })

end Request

/-! ## Reaching a time -/

variable {renderer : Renderer}

theorem now_le_step (d : Desk σ) (st : Step σ) :
    d.scheduler.now ≤ (d.step renderer st).scheduler.now := by
  cases st with
  | edit change => exact Nat.le_refl _
  | trigger provider label => exact Nat.le_refl _
  | cancel => exact Nat.le_refl _
  | sleep time => exact Nat.le_add_right _ _
  | wait => exact Nat.le_max_left _ _

theorem now_le_after (d : Desk σ) (steps : List (Step σ)) :
    d.scheduler.now ≤ (d.after renderer steps).scheduler.now := by
  induction steps generalizing d with
  | nil => exact Nat.le_refl _
  | cons st steps ih => exact Nat.le_trans (d.now_le_step st) (ih (d.step renderer st))

theorem Reaches.now_lt {d v : Desk σ} {steps : List (Step σ)} {time : Nat}
    (h : Reaches renderer d steps time v) : d.scheduler.now < time := by
  obtain ⟨before, _, _, _, _, rfl, hlt, _⟩ := h
  exact Nat.lt_of_le_of_lt (d.now_le_after before) hlt

theorem not_reaches_nil {d v : Desk σ} {time : Nat} : ¬ Reaches renderer d [] time v := by
  rintro ⟨before, st, later, hsteps, _⟩
  exact absurd hsteps (by simp)

/-- The time is reached in the first step, or undisturbed later. -/
theorem reaches_cons_iff {d v : Desk σ} {st : Step σ} {steps : List (Step σ)} {time : Nat} :
    Reaches renderer d (st :: steps) time v ↔
      (v = d ∧ d.scheduler.now < time ∧ time ≤ (d.step renderer st).scheduler.now) ∨
        st.quiet = true ∧ Reaches renderer (d.step renderer st) steps time v := by
  constructor
  · rintro ⟨before, st', later, hsteps, hquiet, hv, hlt, hle⟩
    cases before with
    | nil =>
        obtain ⟨rfl, rfl⟩ := List.cons.inj hsteps
        subst hv
        exact .inl ⟨rfl, hlt, hle⟩
    | cons first before =>
        obtain ⟨rfl, rfl⟩ := List.cons.inj hsteps
        exact .inr ⟨hquiet st List.mem_cons_self, before, st', later, rfl,
          fun s hs => hquiet s (List.mem_cons_of_mem _ hs), hv, hlt, hle⟩
  · rintro (⟨rfl, hlt, hle⟩ | ⟨hfirst, before, st', later, rfl, hquiet, hv, hlt, hle⟩)
    · exact ⟨[], st, steps, rfl, by simp, rfl, hlt, hle⟩
    · refine ⟨st :: before, st', later, rfl, fun s hs => ?_, hv, hlt, hle⟩
      rcases List.mem_cons.mp hs with rfl | hs
      · exact hfirst
      · exact hquiet s hs

/-- A time that the first step does not get to is reached later. -/
theorem reaches_cons_of_lt {d v : Desk σ} {st : Step σ} {steps : List (Step σ)} {time : Nat}
    (hquiet : st.quiet = true) (hlt : (d.step renderer st).scheduler.now < time) :
    Reaches renderer d (st :: steps) time v ↔
      Reaches renderer (d.step renderer st) steps time v := by
  rw [reaches_cons_iff, or_iff_right]
  · exact and_iff_right hquiet
  · rintro ⟨_, _, hle⟩
    omega

/-- A time that the first step gets to is reached in it, and never again. -/
theorem reaches_cons_of_le {d v : Desk σ} {st : Step σ} {steps : List (Step σ)} {time : Nat}
    (hlt : d.scheduler.now < time) (hle : time ≤ (d.step renderer st).scheduler.now) :
    Reaches renderer d (st :: steps) time v ↔ v = d := by
  rw [reaches_cons_iff, or_iff_left]
  · exact and_iff_left ⟨hlt, hle⟩
  · rintro ⟨_, hlater⟩
    have := hlater.now_lt
    omega

theorem not_reaches_cons {d v : Desk σ} {st : Step σ} {steps : List (Step σ)} {time : Nat}
    (hquiet : st.quiet = false) (hnow : (d.step renderer st).scheduler.now = d.scheduler.now) :
    ¬ Reaches renderer d (st :: steps) time v := by
  rw [reaches_cons_iff, hnow, hquiet]
  rintro (⟨_, hlt, hle⟩ | ⟨h, _⟩)
  · omega
  · exact absurd h (by simp)

theorem after_cons (d : Desk σ) (st : Step σ) (steps : List (Step σ)) :
    d.after renderer (st :: steps) = (d.step renderer st).after renderer steps := rfl

/-- A time that is not reached in the first few steps is reached after them. -/
theorem reaches_append_of_lt {d v : Desk σ} {before steps : List (Step σ)} {time : Nat}
    (hquiet : ∀ st ∈ before, st.quiet = true)
    (hlt : (d.after renderer before).scheduler.now < time) :
    Reaches renderer d (before ++ steps) time v ↔
      Reaches renderer (d.after renderer before) steps time v := by
  induction before generalizing d with
  | nil => exact Iff.rfl
  | cons st before ih =>
      have hle : (d.step renderer st).scheduler.now ≤
          ((d.step renderer st).after renderer before).scheduler.now := now_le_after _ before
      rw [after_cons] at hlt
      rw [List.cons_append, after_cons,
        reaches_cons_of_lt (hquiet st List.mem_cons_self) (by omega)]
      exact ih (fun st' hst' => hquiet st' (List.mem_cons_of_mem st hst')) hlt

theorem step_listening (renderer : Renderer) (d : Desk σ) (st : Step σ) :
    (d.step renderer st).scheduler.listening = d.scheduler.listening :=
  (settled_after renderer d [st]).2

end Desk

end LabelTemplate
