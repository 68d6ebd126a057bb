import LabelTemplate.Preview.Desk

/-!
# What one request can do

Time moves on for one request after the other. What a single one of them can do to the
scheduler is said here once, for every service: it stays in the list under its number,
or it leaves it; it calls the service only if it was waiting and nobody took it back;
and what its call comes to is taken in under its number.

A property of schedulers that such steps keep is kept when time moves on, and one that
requests and cancellations keep as well is kept at a desk forever.
-/

namespace LabelTemplate

variable {π σ : Type}

namespace Task

/-- Does the request wait for its time, and was not taken back? -/
def Waits (t : Task π) : Prop := t.cancelled = false ∧ ∃ due, t.phase = .waiting due

theorem call?_generation {t : Task π} {document : π → Text} {c : Call}
    (h : t.call? document = some c) : c.generation = t.generation := by
  unfold call? at h
  split at h
  · exact absurd h (by simp)
  · rw [← Option.some.inj h]

theorem heed_generation {t u : Task π} {renderer : Renderer} {now : Nat}
    (h : t.heed renderer now = some u) : u.generation = t.generation := by
  unfold heed at h
  split at h
  · rw [← Option.some.inj h]
  · exact absurd h (by simp)
  · obtain ⟨d, _, rfl⟩ := Option.map_eq_some_iff.mp h
    rfl

/-- A request that still waits after taking notice has nothing to take notice of. -/
theorem heed_waiting {t u : Task π} {renderer : Renderer} {now due : Nat}
    (h : t.heed renderer now = some u) (hu : u.phase = .waiting due) : u = t ∧ t.Waits := by
  unfold heed at h
  split at h
  · rename_i hcancelled
    obtain rfl := Option.some.inj h
    exact ⟨rfl, hcancelled, due, hu⟩
  · exact absurd h (by simp)
  · obtain ⟨d, _, rfl⟩ := Option.map_eq_some_iff.mp h
    exact absurd hu (by simp)

theorem draw_unfinished {t u : Task π} {limit : Nat} {d : Drawing}
    (h : t.draw limit d = .unfinished u) : u = { t with phase := .drawing d } := by
  unfold draw at h
  split at h
  · exact absurd h (by simp)
  · exact (Progress.unfinished.inj h).symm

/-- A request that asks makes a call of its own number, and does not wait any more. -/
theorem ask_spec {t u : Task π} {renderer : Renderer} {document : π → Text} {limit due : Nat}
    (h : (t.ask renderer document limit due).2 = .unfinished u) :
    u.generation = t.generation ∧ ¬ u.Waits := by
  unfold ask at h
  split at h
  · exact absurd h (by simp)
  · simp only at h
    split at h
    · exact absurd h (by simp)
    · obtain rfl := draw_unfinished h
      exact ⟨rfl, fun hw => by obtain ⟨_, due, hdue⟩ := hw; exact absurd hdue (by simp)⟩

/--
**What a request comes to when time moves on.**

If it is not done it keeps its number, and if it still waits it is as it was and made no
call. It makes a call only if it was waiting, and the call has its number.
-/
theorem run_spec (t : Task π) (renderer : Renderer) (document : π → Text) (now limit : Nat) :
    (∀ u, (t.run renderer document now limit).2 = .unfinished u →
        u.generation = t.generation ∧
          (u.Waits → t.Waits ∧ (t.run renderer document now limit).1 = none)) ∧
      ∀ c, (t.run renderer document now limit).1 = some c →
        t.Waits ∧ c.generation = t.generation := by
  unfold run
  cases hheed : t.heed renderer now with
  | none => simp
  | some v =>
      have hv := heed_generation hheed
      simp only
      cases hphase : v.phase with
      | drawing d =>
          refine ⟨fun u hu => ?_, by simp⟩
          obtain rfl := draw_unfinished hu
          exact ⟨hv, fun hw => by obtain ⟨_, due, hdue⟩ := hw; exact absurd hdue (by simp)⟩
      | waiting due =>
          obtain ⟨rfl, hwaits⟩ := heed_waiting hheed hphase
          simp only
          split
          · refine ⟨fun u hu => ?_, fun c hc => ⟨hwaits, ?_⟩⟩
            · obtain ⟨hgeneration, hno⟩ := ask_spec hu
              exact ⟨hgeneration, fun hw => absurd hw hno⟩
            · unfold ask at hc
              split at hc
              · exact absurd hc (by simp)
              · rename_i call hcall
                rw [← Option.some.inj hc]
                exact call?_generation hcall
          · refine ⟨fun u hu => ?_, by simp⟩
            obtain rfl := Progress.unfinished.inj hu
            exact ⟨rfl, fun _ => ⟨hwaits, rfl⟩⟩

end Task

namespace Scheduler

/-- The numbers of the requests that are not done. -/
def numbers (s : Scheduler π) : List Nat := s.running.map Task.generation

/-- The scheduler with some requests for which time has yet to move on. -/
def beside (s : Scheduler π) (ts : List (Task π)) : Scheduler π :=
  { s with running := s.running ++ ts }

/--
A property that is kept when time moves on for one request, whatever others there are, is
kept when time moves on for all.
-/
theorem advance_keeps {P : Scheduler π → Prop} {renderer : Renderer} {document : π → Text}
    {limit : Nat} {s : Scheduler π}
    (hrun : ∀ (v : Scheduler π) (t : Task π) (ts : List (Task π)), P (v.beside (t :: ts)) →
      P ((runTask renderer document s.now limit v t).beside ts))
    (hnow : ∀ (v : Scheduler π) (time : Nat), P v → P { v with now := time }) (h : P s) :
    P (s.advance renderer document limit) := by
  have key : ∀ (ts : List (Task π)) (v : Scheduler π), P (v.beside ts) →
      P (ts.foldl (runTask renderer document s.now limit) v) := by
    intro ts
    induction ts with
    | nil => intro v hv; simpa [beside] using hv
    | cons t ts ih => intro v hv; exact ih _ (hrun v t ts hv)
  exact hnow _ limit (key s.running { s with running := [] } (by simpa [beside] using h))

/-- What a call came to is dropped, or it is what the latest request comes to. -/
theorem complete_cases (s : Scheduler π) (generation : Nat) (drawn : Drawn) :
    s.complete generation drawn = s ∨
      generation = s.generation ∧
        ((∃ preview, previewOf generation drawn = .ok preview ∧
            s.complete generation drawn =
              { s with
                outcome := .ok (some preview)
                delivered := if s.listening then s.delivered ++ [preview] else s.delivered }) ∨
          ∃ reason, previewOf generation drawn = .error reason ∧
            s.complete generation drawn = { s with outcome := .error reason }) := by
  unfold complete
  by_cases hlatest : generation = s.generation
  · refine .inr ⟨hlatest, ?_⟩
    rw [if_pos hlatest]
    cases hpreview : previewOf generation drawn with
    | ok preview => exact .inl ⟨preview, rfl, rfl⟩
    | error reason => exact .inr ⟨reason, rfl, rfl⟩
  · exact .inl (if_neg hlatest)

theorem previewOf_generation {generation : Nat} {drawn : Drawn} {preview : Preview}
    (h : previewOf generation drawn = .ok preview) : preview.generation = generation := by
  cases drawn with
  | picture image => rw [← Except.ok.inj h]
  | refused reason => rw [← Except.ok.inj h]
  | failed reason => exact absurd h (by simp [previewOf])

/-- Noting a call changes nothing but the list of calls. -/
theorem note_eq (s : Scheduler π) (call : Option Call) :
    s.note call = { s with calls := s.calls ++ call.toList } := by
  cases call with
  | none => simp [note]
  | some c => rfl

/-- **What time moving on for one request does to the scheduler.** -/
theorem runTask_cases (renderer : Renderer) (document : π → Text) (now limit : Nat)
    (s : Scheduler π) (t : Task π) :
    (∃ u, (t.run renderer document now limit).2 = .unfinished u ∧
        runTask renderer document now limit s t =
          { s with
            calls := s.calls ++ (t.run renderer document now limit).1.toList
            running := s.running ++ [u] }) ∨
      ((t.run renderer document now limit).2 = .finished none ∧
        runTask renderer document now limit s t =
          { s with calls := s.calls ++ (t.run renderer document now limit).1.toList }) ∨
      ∃ drawn, (t.run renderer document now limit).2 = .finished (some drawn) ∧
        runTask renderer document now limit s t =
          { s with calls := s.calls ++ (t.run renderer document now limit).1.toList }.complete
            t.generation drawn := by
  unfold runTask
  simp only [← note_eq]
  cases (t.run renderer document now limit).2 with
  | unfinished u =>
      refine .inl ⟨u, rfl, ?_⟩
      rw [note_eq]
  | finished drawn =>
      cases drawn with
      | none => exact .inr (.inl ⟨rfl, rfl⟩)
      | some drawn => exact .inr (.inr ⟨drawn, rfl, rfl⟩)

/-- Time moving on for one request touches nothing but its traces. -/
theorem runTask_eq (renderer : Renderer) (document : π → Text) (now limit : Nat)
    (s : Scheduler π) (t : Task π) :
    ∃ running outcome calls delivered, runTask renderer document now limit s t =
      { s with running := running, outcome := outcome, calls := calls
               delivered := delivered } := by
  rcases runTask_cases renderer document now limit s t with
    ⟨u, _, heq⟩ | ⟨_, heq⟩ | ⟨drawn, _, heq⟩
  · exact ⟨_, _, _, _, heq⟩
  · exact ⟨_, _, _, _, heq⟩
  · rcases complete_cases _ t.generation drawn with
      hdropped | ⟨_, ⟨_, _, hanswered⟩ | ⟨_, _, hbroken⟩⟩
    · exact ⟨_, _, _, _, heq.trans hdropped⟩
    · exact ⟨_, _, _, _, heq.trans hanswered⟩
    · exact ⟨_, _, _, _, heq.trans hbroken⟩

theorem advance_eq (s : Scheduler π) (renderer : Renderer) (document : π → Text) (limit : Nat) :
    ∃ running outcome calls delivered, s.advance renderer document limit =
      { s with now := limit, running := running, outcome := outcome, calls := calls
               delivered := delivered } := by
  have key : ∃ now running outcome calls delivered, s.advance renderer document limit =
      { s with now := now, running := running, outcome := outcome, calls := calls
               delivered := delivered } := by
    refine advance_keeps (P := fun v => ∃ now running outcome calls delivered, v =
      { s with now := now, running := running, outcome := outcome, calls := calls
               delivered := delivered }) (fun v t ts hv => ?_) (fun v time hv => ?_)
      ⟨_, _, _, _, _, rfl⟩
    · obtain ⟨now, _, outcome, calls, delivered, hv⟩ := hv
      obtain ⟨_, _, _, _, heq⟩ := runTask_eq renderer document s.now limit v t
      have hsame : v = { s with now := now, running := v.running, outcome := outcome
                                calls := calls, delivered := delivered } := by
        cases v
        cases hv
        rfl
      rw [heq, hsame]
      exact ⟨_, _, _, _, _, rfl⟩
    · obtain ⟨_, _, _, _, _, rfl⟩ := hv
      exact ⟨_, _, _, _, _, rfl⟩
  obtain ⟨now, running, outcome, calls, delivered, heq⟩ := key
  have hnow : now = limit := by
    have := congrArg Scheduler.now heq
    exact this.symm
  exact ⟨running, outcome, calls, delivered, hnow ▸ heq⟩

end Scheduler

namespace Desk

/-- How many previews are asked for. -/
def requests : List (Step σ) → Nat :=
  List.countP fun
    | .trigger _ _ => true
    | _ => false

theorem requests_append (steps later : List (Step σ)) :
    requests (steps ++ later) = requests steps + requests later := List.countP_append

theorem requests_cons (st : Step σ) (steps : List (Step σ)) :
    requests (st :: steps) = requests [st] + requests steps := requests_append [st] steps

theorem after_append (renderer : Renderer) (d : Desk σ) (steps later : List (Step σ)) :
    d.after renderer (steps ++ later) = (d.after renderer steps).after renderer later :=
  List.foldl_append

/--
**What holds at every desk.** A property of schedulers that asking, taking back and
moving time on keep holds after everything that can happen.
-/
theorem after_keeps {P : Scheduler (σ → Text) → Prop} {renderer : Renderer}
    (htrigger : ∀ s provider label, P s → P (s.trigger provider label))
    (hcancel : ∀ s, P s → P s.cancel)
    (hadvance : ∀ s document limit, P s → P (s.advance renderer document limit))
    {d : Desk σ} (h : P d.scheduler) (steps : List (Step σ)) :
    P (d.after renderer steps).scheduler := by
  induction steps generalizing d with
  | nil => exact h
  | cons st steps ih =>
      refine ih ?_
      cases st with
      | edit change => exact h
      | trigger provider label => exact htrigger _ _ _ h
      | cancel => exact hcancel _ h
      | sleep time => exact hadvance _ _ _ h
      | wait => exact hadvance _ _ _ h

/-- How long requests wait, and whether somebody listens, is settled from the beginning. -/
theorem settled_after (renderer : Renderer) (d : Desk σ) (steps : List (Step σ)) :
    (d.after renderer steps).scheduler.delay = d.scheduler.delay ∧
      (d.after renderer steps).scheduler.listening = d.scheduler.listening := by
  refine after_keeps
    (P := fun s => s.delay = d.scheduler.delay ∧ s.listening = d.scheduler.listening)
    (fun _ _ _ h => h) (fun _ h => h) (fun s document limit h => ?_) ⟨rfl, rfl⟩ steps
  obtain ⟨_, _, _, _, heq⟩ := s.advance_eq renderer document limit
  rw [heq]
  exact h

end Desk

end LabelTemplate
