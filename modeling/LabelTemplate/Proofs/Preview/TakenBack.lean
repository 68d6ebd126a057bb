import LabelTemplate.Proofs.Preview.Alone
import LabelTemplate.Proofs.Preview.Reaching

/-!
# Requests that are taken back

To take a request back leaves its number the latest one, so the number keeps nothing from the screen
that still comes of it. While the request waits, nothing does. A service that is already at work on
its call is told, and it is up to the service what follows: it may stop, or go on to a result all
the same, and be told again.

What `Expects` says carries the argument: which call of the latest request is under way and when it
comes to its end, if the request is left alone from now on. Time moving on keeps it or brings it to
that end, and taking back is the one thing that changes it (`expects_cancel_iff`).
-/

namespace LabelTemplate

variable {π σ : Type}

/-! ## What one request comes to -/

namespace Task

/-- Left alone from now on, the request comes to the end of this call. -/
def Expects (t : Task π) (renderer : Renderer) (now : Nat) (w : Drawing) : Prop :=
  ∃ u, t.heed renderer now = some u ∧ u.phase = .drawing w

variable {t u : Task π} {renderer : Renderer} {document : π → Text} {now limit : Nat} {w : Drawing}

theorem expects_drawing_iff {v : Drawing} (h : t.cancelled = false) :
    { t with phase := .drawing w }.Expects renderer now v ↔ v = w := by
  have hkept : { t with phase := .drawing w }.cancelled = false := h
  rw [Expects, heed_of_not_cancelled hkept]
  simp [eq_comm]

theorem heed_cancelled {t u : Task π} (h : t.heed renderer now = some u) : u.cancelled = false := by
  unfold heed at h
  split at h
  · rename_i hkept
    rwa [← Option.some.inj h]
  · exact absurd h (by simp)
  · obtain ⟨d, _, rfl⟩ := Option.map_eq_some_iff.mp h
    rfl

/-- The service is told, and says how it goes on. -/
theorem expects_of_cancelled (h : t.cancelled = true) :
    t.Expects renderer now w ↔ ∃ v time drawn, t.phase = .drawing v ∧
      renderer.prospect v.call (v.cancellations ++ [now - v.since]) = .ends time drawn ∧
      w = { call := v.call, since := v.since, cancellations := v.cancellations ++ [now - v.since]
            due := now + time, drawn := drawn } := by
  unfold Expects heed Renderer.proceed
  rw [h]
  cases t.phase with
  | waiting due => simp
  | drawing v =>
      cases hprospect : renderer.prospect v.call (v.cancellations ++ [now - v.since]) with
      | stops => simp [hprospect]
      | ends time drawn => simp [hprospect, eq_comm]

/-- A request that does not wait, or was taken back, has a call under way or comes to nothing. -/
theorem run_of_not_waits (h : ¬ t.Waits) (renderer : Renderer) (document : π → Text)
    (now limit : Nat) :
    ((∀ w, ¬ t.Expects renderer now w) ∧
      t.run renderer document now limit = (none, .finished none)) ∨
      ∃ (u : Task π) (w : Drawing), t.Expects renderer now w ∧
        (∀ v, t.Expects renderer now v → v = w) ∧ u.cancelled = false ∧
        t.run renderer document now limit = (none, u.draw limit w) := by
  unfold run
  cases hheed : t.heed renderer now with
  | none => exact .inl ⟨fun w ⟨u, hu, _⟩ => absurd (hheed.symm.trans hu) (by simp), rfl⟩
  | some u =>
      cases hphase : u.phase with
      | waiting due => exact absurd (heed_waiting hheed hphase).2 h
      | drawing w =>
          refine .inr ⟨u, w, ⟨u, hheed, hphase⟩, fun v ⟨u', hu', hv⟩ => ?_,
            heed_cancelled hheed, by simp only [hphase]⟩
          obtain rfl := Option.some.inj (hheed.symm.trans hu')
          exact Phase.drawing.inj (hv.symm.trans hphase)

/-- A call comes to its end in time or not at all. -/
theorem run_finished_iff (h : ¬ t.Waits) {drawn : Drawn} :
    (t.run renderer document now limit).2 = .finished (some drawn) ↔
      ∃ w, t.Expects renderer now w ∧ w.due ≤ limit ∧ w.drawn = drawn := by
  rcases run_of_not_waits h renderer document now limit with
    ⟨hnone, hrun⟩ | ⟨u, w, hw, honly, _, hrun⟩
  · rw [hrun]
    simp [hnone]
  · have hcall : (∃ v, t.Expects renderer now v ∧ v.due ≤ limit ∧ v.drawn = drawn) ↔
        w.due ≤ limit ∧ w.drawn = drawn :=
      ⟨fun ⟨v, hv, hend⟩ => honly v hv ▸ hend, fun hend => ⟨w, hw, hend⟩⟩
    rw [hrun, hcall, draw]
    split
    · rename_i hle
      simp [hle]
    · rename_i hlt
      simp [hlt]

/-- A call whose end is still to come is under way afterwards as it was before. -/
theorem exists_unfinished_iff (h : ¬ t.Waits) :
    (∃ u, (t.run renderer document now limit).2 = .unfinished u ∧ u.Expects renderer limit w) ↔
      t.Expects renderer now w ∧ limit < w.due := by
  rcases run_of_not_waits h renderer document now limit with
    ⟨hnone, hrun⟩ | ⟨u, v, hv, honly, hkept, hrun⟩
  · rw [hrun]
    simp [hnone]
  · rw [hrun]
    constructor
    · rintro ⟨u', hu', hexpects⟩
      by_cases hle : v.due ≤ limit
      · rw [draw_finished hle] at hu'
        exact absurd hu' (by simp)
      · obtain rfl := draw_unfinished hu'
        obtain rfl := (expects_drawing_iff hkept).mp hexpects
        exact ⟨hv, by omega⟩
    · rintro ⟨hw, hlt⟩
      obtain rfl := honly w hw
      refine ⟨{ u with phase := .drawing w }, ?_, (expects_drawing_iff hkept).mpr rfl⟩
      show u.draw limit w = _
      rw [draw, if_neg (by omega)]

end Task

/-! ## What the latest request comes to -/

namespace Scheduler

/-- The service is at work on this call for the latest request. -/
def AtWork (s : Scheduler π) (w : Drawing) : Prop :=
  ∃ t ∈ s.running, t.generation = s.generation ∧ t.phase = .drawing w

/-- Taken back now, the call for the latest request goes on and comes to this after some time. -/
def GoesOn (s : Scheduler π) (renderer : Renderer) (time : Nat) (drawn : Drawn) : Prop :=
  ∃ w, s.AtWork w ∧
    renderer.prospect w.call (w.cancellations ++ [s.now - w.since]) = .ends time drawn

/-- Left alone from now on, the latest request comes to the end of this call. -/
def Expects (s : Scheduler π) (renderer : Renderer) (w : Drawing) : Prop :=
  ∃ t ∈ s.running, t.generation = s.generation ∧ t.Expects renderer s.now w

variable {s : Scheduler π} {renderer : Renderer} {document : π → Text} {limit : Nat} {w : Drawing}

theorem Called.not_waits (h : s.Called s.generation) {t : Task π} (ht : t ∈ s.running)
    (hlatest : t.generation = s.generation) : ¬ t.Waits := fun hwaits => h.2 t ht hwaits hlatest

/-- Time that moves on to the end of the call brings its preview. -/
theorem Called.mem_delivered_iff (h : s.Called s.generation) (hlistening : s.listening = true)
    {p : Preview} :
    p ∈ (s.advance renderer document limit).delivered ↔
      p ∈ s.delivered ∨ ∃ w, s.Expects renderer w ∧ w.due ≤ limit ∧
        previewOf s.generation w.drawn = .ok p := by
  rw [mem_delivered_advance_iff hlistening]
  refine or_congr_right ⟨?_, ?_⟩
  · rintro ⟨t, ht, hlatest, drawn, hrun, hpreview⟩
    obtain ⟨w, hw, hle, rfl⟩ := (Task.run_finished_iff (h.not_waits ht hlatest)).mp hrun
    exact ⟨w, ⟨t, ht, hlatest, hw⟩, hle, hlatest ▸ hpreview⟩
  · rintro ⟨w, ⟨t, ht, hlatest, hw⟩, hle, hpreview⟩
    exact ⟨t, ht, hlatest, w.drawn, (Task.run_finished_iff (h.not_waits ht hlatest)).mpr
      ⟨w, hw, hle, rfl⟩, hlatest ▸ hpreview⟩

/-- A call that has not come to its end is still under way. -/
theorem Called.expects_advance_iff (h : s.Called s.generation) :
    (s.advance renderer document limit).Expects renderer w ↔
      s.Expects renderer w ∧ limit < w.due := by
  constructor
  · rintro ⟨u, hu, hlatest, hw⟩
    obtain ⟨t, ht, hrun⟩ := mem_running_advance_iff.mp hu
    have hsame := ((t.run_spec renderer document s.now limit).1 u hrun).1
    have hlatest' : t.generation = s.generation :=
      hsame.symm.trans (hlatest.trans advance_generation)
    obtain ⟨hw', hlt⟩ := (Task.exists_unfinished_iff (h.not_waits ht hlatest')).mp ⟨u, hrun, hw⟩
    exact ⟨⟨t, ht, hlatest', hw'⟩, hlt⟩
  · rintro ⟨⟨t, ht, hlatest, hw⟩, hlt⟩
    obtain ⟨u, hrun, hw'⟩ := (Task.exists_unfinished_iff (h.not_waits ht hlatest)).mpr ⟨hw, hlt⟩
    have hsame := ((t.run_spec renderer document s.now limit).1 u hrun).1
    exact ⟨u, mem_running_advance_iff.mpr ⟨t, ht, hrun⟩,
      hsame.trans (hlatest.trans advance_generation.symm), hw'⟩

theorem mem_running_cancel_iff {u : Task π} :
    u ∈ s.cancel.running ∧ u.generation = s.generation ↔
      ∃ t ∈ s.running, t.generation = s.generation ∧ u = { t with cancelled := true } := by
  constructor
  · rintro ⟨hu, hlatest⟩
    obtain ⟨t, ht, rfl⟩ := List.mem_map.mp hu
    by_cases hother : t.generation = s.generation
    · exact ⟨t, ht, hother, if_pos hother⟩
    · rw [if_neg hother] at hlatest
      exact absurd hlatest hother
  · rintro ⟨t, ht, hlatest, rfl⟩
    exact ⟨List.mem_map.mpr ⟨t, ht, if_pos hlatest⟩, hlatest⟩

/-- **What comes of the latest request when it is taken back is up to the service.** -/
theorem exists_expects_cancel_iff (s : Scheduler π) (renderer : Renderer)
    (P : Nat → Drawn → Prop) :
    (∃ w, s.cancel.Expects renderer w ∧ P w.due w.drawn) ↔
      ∃ time drawn, s.GoesOn renderer time drawn ∧ P (s.now + time) drawn := by
  constructor
  · rintro ⟨w, ⟨u, hu, hlatest, hw⟩, hP⟩
    obtain ⟨t, ht, hlatest', rfl⟩ := mem_running_cancel_iff.mp ⟨hu, hlatest⟩
    obtain ⟨v, time, drawn, hphase, hprospect, rfl⟩ := (Task.expects_of_cancelled rfl).mp hw
    exact ⟨time, drawn, ⟨v, ⟨t, ht, hlatest', hphase⟩, hprospect⟩, hP⟩
  · rintro ⟨time, drawn, ⟨v, ⟨t, ht, hlatest, hphase⟩, hprospect⟩, hP⟩
    obtain ⟨hu, hlatest'⟩ := mem_running_cancel_iff.mpr ⟨t, ht, hlatest, rfl⟩
    exact ⟨_, ⟨{ t with cancelled := true }, hu, hlatest',
      (Task.expects_of_cancelled rfl).mpr ⟨v, time, drawn, hphase, hprospect, rfl⟩⟩, hP⟩

/-- The latest request was taken back, and left alone it comes to nothing. -/
def Silent (s : Scheduler π) (renderer : Renderer) : Prop :=
  ∀ t ∈ s.running, t.generation = s.generation →
    t.cancelled = true ∧ ∀ w, ¬ t.Expects renderer s.now w

theorem Silent.not_goesOn (h : s.Silent renderer) (time : Nat) (drawn : Drawn) :
    ¬ s.GoesOn renderer time drawn := by
  rintro ⟨w, ⟨t, ht, hlatest, hphase⟩, hprospect⟩
  obtain ⟨hcancelled, hnone⟩ := h t ht hlatest
  exact hnone _ ((Task.expects_of_cancelled hcancelled).mpr
    ⟨w, time, drawn, hphase, hprospect, rfl⟩)

theorem Silent.not_expects (h : s.Silent renderer) (w : Drawing) : ¬ s.Expects renderer w :=
  fun ⟨t, ht, hlatest, hw⟩ => (h t ht hlatest).2 w hw

theorem silent_cancel (h : ∀ time drawn, ¬ s.GoesOn renderer time drawn) :
    s.cancel.Silent renderer := by
  intro u hu hlatest
  obtain ⟨t, ht, hlatest', rfl⟩ := mem_running_cancel_iff.mp ⟨hu, hlatest⟩
  refine ⟨rfl, fun w hw => ?_⟩
  obtain ⟨v, time, drawn, hphase, hprospect, _⟩ := (Task.expects_of_cancelled rfl).mp hw
  exact h time drawn ⟨v, ⟨t, ht, hlatest', hphase⟩, hprospect⟩

theorem Silent.advance (h : s.Silent renderer) :
    (s.advance renderer document limit).Silent renderer := by
  intro u hu hlatest
  obtain ⟨t, ht, hrun⟩ := mem_running_advance_iff.mp hu
  have hsame := ((t.run_spec renderer document s.now limit).1 u hrun).1
  obtain ⟨hcancelled, hnone⟩ := h t ht (hsame.symm.trans (hlatest.trans advance_generation))
  have hwaits : ¬ t.Waits := fun hwaits => absurd (hcancelled.symm.trans hwaits.1) (by simp)
  rcases Task.run_of_not_waits hwaits renderer document s.now limit with
    ⟨_, hdone⟩ | ⟨_, w, hw, _⟩
  · rw [hdone] at hrun
    exact absurd hrun (by simp)
  · exact absurd hw (hnone w)

theorem runTask_unheard (h : s.listening = false) (now : Nat) (t : Task π) :
    (runTask renderer document now limit s t).delivered = s.delivered := by
  rcases runTask_cases renderer document now limit s t with
    ⟨u, _, heq⟩ | ⟨_, heq⟩ | ⟨drawn, _, heq⟩
  · rw [heq]
  · rw [heq]
  · rw [heq]
    rcases complete_cases
      { s with calls := s.calls ++ (t.run renderer document now limit).1.toList }
      t.generation drawn with hdropped | ⟨_, ⟨_, _, hanswered⟩ | ⟨_, _, hbroken⟩⟩
    · rw [hdropped]
    · rw [hanswered]
      simp [h]
    · rw [hbroken]

end Scheduler

namespace Desk

/-! ## Time that moves on after a request was taken back -/

/-- Does time move on in a step? -/
def Step.moves : Step σ → Bool
  | .sleep _ | .wait => true
  | .edit _ | .trigger _ _ | .cancel => false

/--
In the course of the steps time moves on, to a given time or beyond, before anything is asked for
or taken back. A time that is now already is moved on to in the next step in which time moves.
-/
def MovesOnTo (renderer : Renderer) (d : Desk σ) (steps : List (Step σ)) (time : Nat) : Prop :=
  ∃ before st later, steps = before ++ st :: later ∧ (∀ s ∈ before, s.quiet) ∧ st.moves ∧
    time ≤ ((d.after renderer before).step renderer st).scheduler.now

/--
Among the steps the latest request is taken back, and the service goes on with its call all the
same; time moves on to the end of it, and this is the preview that it comes to.
-/
def Outlives (renderer : Renderer) (d : Desk σ) (steps : List (Step σ)) (p : Preview) : Prop :=
  ∃ before later time drawn, steps = before ++ .cancel :: later ∧
    (d.after renderer before).scheduler.GoesOn renderer time drawn ∧
    MovesOnTo renderer ((d.after renderer before).step renderer .cancel) later
      ((d.after renderer before).scheduler.now + time) ∧
    Scheduler.previewOf (d.after renderer before).scheduler.generation drawn = .ok p

variable {renderer : Renderer} {d : Desk σ} {st : Step σ} {steps : List (Step σ)} {time : Nat}
  {p : Preview}

theorem not_movesOnTo_nil : ¬ MovesOnTo renderer d [] time := by
  rintro ⟨before, st, later, hsteps, _⟩
  exact absurd hsteps (by simp)

theorem movesOnTo_cons_iff :
    MovesOnTo renderer d (st :: steps) time ↔
      st.moves ∧ time ≤ (d.step renderer st).scheduler.now ∨
        st.quiet ∧ MovesOnTo renderer (d.step renderer st) steps time := by
  constructor
  · rintro ⟨before, st', later, hsteps, hquiet, hmoves, hle⟩
    cases before with
    | nil =>
        obtain ⟨rfl, rfl⟩ := List.cons.inj hsteps
        exact .inl ⟨hmoves, hle⟩
    | cons first before =>
        obtain ⟨rfl, rfl⟩ := List.cons.inj hsteps
        exact .inr ⟨hquiet st List.mem_cons_self, before, st', later, rfl,
          fun s hs => hquiet s (List.mem_cons_of_mem _ hs), hmoves, hle⟩
  · rintro (⟨hmoves, hle⟩ | ⟨hfirst, before, st', later, rfl, hquiet, hmoves, hle⟩)
    · exact ⟨[], st, steps, rfl, by simp, hmoves, hle⟩
    · exact ⟨st :: before, st', later, rfl, by simpa [hfirst] using hquiet, hmoves, hle⟩

theorem not_outlives_nil : ¬ Outlives renderer d [] p := by
  rintro ⟨before, later, _, _, hsteps, _⟩
  exact absurd hsteps (by simp)

/-- The call goes on from here and comes to its end, or one outlives being taken back later. -/
theorem outlives_cancel_iff :
    Outlives renderer d (.cancel :: steps) p ↔
      (∃ w, (d.step renderer .cancel).scheduler.Expects renderer w ∧
        MovesOnTo renderer (d.step renderer .cancel) steps w.due ∧
        Scheduler.previewOf d.scheduler.generation w.drawn = .ok p) ∨
        Outlives renderer (d.step renderer .cancel) steps p := by
  have hunderway := d.scheduler.exists_expects_cancel_iff renderer fun due drawn =>
    MovesOnTo renderer (d.step renderer .cancel) steps due ∧
      Scheduler.previewOf d.scheduler.generation drawn = .ok p
  refine Iff.trans ?_ (or_congr_left hunderway.symm)
  constructor
  · rintro ⟨before, later, time, drawn, hsteps, hgoes, hmoves, hpreview⟩
    cases before with
    | nil =>
        obtain ⟨_, rfl⟩ := List.cons.inj hsteps
        exact .inl ⟨time, drawn, hgoes, hmoves, hpreview⟩
    | cons first before =>
        obtain ⟨rfl, rfl⟩ := List.cons.inj hsteps
        exact .inr ⟨before, later, time, drawn, rfl, hgoes, hmoves, hpreview⟩
  · rintro (⟨time, drawn, hgoes, hmoves, hpreview⟩ |
      ⟨before, later, time, drawn, rfl, hgoes, hmoves, hpreview⟩)
    · exact ⟨[], steps, time, drawn, rfl, hgoes, hmoves, hpreview⟩
    · exact ⟨.cancel :: before, later, time, drawn, rfl, hgoes, hmoves, hpreview⟩

theorem outlives_cons_iff (h : st.quiet = true) :
    Outlives renderer d (st :: steps) p ↔ Outlives renderer (d.step renderer st) steps p := by
  constructor
  · rintro ⟨before, later, time, drawn, hsteps, hgoes, hmoves, hpreview⟩
    cases before with
    | nil =>
        obtain ⟨rfl, _⟩ := List.cons.inj hsteps
        exact absurd h (by simp [Step.quiet])
    | cons first before =>
        obtain ⟨rfl, rfl⟩ := List.cons.inj hsteps
        exact ⟨before, later, time, drawn, rfl, hgoes, hmoves, hpreview⟩
  · rintro ⟨before, later, time, drawn, rfl, hgoes, hmoves, hpreview⟩
    exact ⟨st :: before, later, time, drawn, rfl, hgoes, hmoves, hpreview⟩

/-- A step that asks for nothing takes back, or leaves the scheduler alone, or moves time on. -/
theorem step_cases_of_no_request (renderer : Renderer) (d : Desk σ) (h : requests [st] = 0) :
    st = .cancel ∨
      (st.quiet = true ∧ st.moves = false ∧ (d.step renderer st).scheduler = d.scheduler) ∨
      st.quiet = true ∧ st.moves = true ∧ ∃ limit,
        (d.step renderer st).scheduler = d.scheduler.advance renderer d.document limit := by
  cases st with
  | edit change => exact .inr (.inl ⟨rfl, rfl, rfl⟩)
  | trigger provider label => exact absurd h (by simp [requests])
  | cancel => exact .inl rfl
  | sleep time => exact .inr (.inr ⟨rfl, rfl, _, rfl⟩)
  | wait => exact .inr (.inr ⟨rfl, rfl, _, rfl⟩)

/-- When time moves on in a step, the call comes to its end in it or is still under way after it. -/
theorem exists_expects_of_moves (steps : List (Step σ))
    (h : d.scheduler.Called d.scheduler.generation)
    (hquiet : st.quiet = true) (hmoves : st.moves = true) {limit : Nat}
    (hadvance : (d.step renderer st).scheduler = d.scheduler.advance renderer d.document limit)
    (P : Drawn → Prop) :
    (∃ w, d.scheduler.Expects renderer w ∧ MovesOnTo renderer d (st :: steps) w.due ∧ P w.drawn) ↔
      (∃ w, d.scheduler.Expects renderer w ∧ w.due ≤ limit ∧ P w.drawn) ∨
      ∃ w, (d.step renderer st).scheduler.Expects renderer w ∧
        MovesOnTo renderer (d.step renderer st) steps w.due ∧ P w.drawn := by
  have hclock : (d.step renderer st).scheduler.now = limit := by
    rw [hadvance]
    rfl
  simp only [movesOnTo_cons_iff, hclock, hquiet, hmoves, true_and]
  constructor
  · rintro ⟨w, hw, hreached, hP⟩
    by_cases hle : w.due ≤ limit
    · exact .inl ⟨w, hw, hle, hP⟩
    · refine .inr ⟨w, ?_, hreached.resolve_left hle, hP⟩
      rw [hadvance, h.expects_advance_iff]
      exact ⟨hw, by omega⟩
  · rintro (⟨w, hw, hle, hP⟩ | ⟨w, hw, hlater, hP⟩)
    · exact ⟨w, hw, .inl hle, hP⟩
    · rw [hadvance, h.expects_advance_iff] at hw
      exact ⟨w, hw.1, .inr hlater, hP⟩

/--
**What is delivered once the latest request does not wait any more.** It is the preview of the call
that is under way, if time moves on to its end before anything is taken back, or of one that
outlives being taken back.
-/
theorem mem_delivered_of_called (hlistening : d.scheduler.listening = true)
    (h : d.scheduler.Called d.scheduler.generation) (hsteps : requests steps = 0) :
    p ∈ (d.after renderer steps).scheduler.delivered ↔
      p ∈ d.scheduler.delivered ∨
        (∃ w, d.scheduler.Expects renderer w ∧ MovesOnTo renderer d steps w.due ∧
          Scheduler.previewOf d.scheduler.generation w.drawn = .ok p) ∨
        Outlives renderer d steps p := by
  induction steps generalizing d with
  | nil => simp [after, not_movesOnTo_nil, not_outlives_nil]
  | cons st steps ih =>
      rw [requests_cons, Nat.add_eq_zero_iff] at hsteps
      have hlistening' := (d.step_listening renderer st).trans hlistening
      rw [after_cons]
      rcases step_cases_of_no_request renderer d hsteps.1 with
        rfl | ⟨hquiet, hmoves, hsame⟩ | ⟨hquiet, hmoves, limit, hadvance⟩
      · -- what the latest request is coming to from here is what the service says now
        have hcalled : d.scheduler.cancel.Called d.scheduler.generation :=
          h.cancel fun _ hwaits => hwaits.1
        have hnow : ¬ ∃ w, d.scheduler.Expects renderer w ∧
            MovesOnTo renderer d (.cancel :: steps) w.due ∧
            Scheduler.previewOf d.scheduler.generation w.drawn = .ok p := by
          rintro ⟨w, _, hmoves, _⟩
          simp [movesOnTo_cons_iff, Step.moves, Step.quiet] at hmoves
        rw [ih hlistening' hcalled hsteps.2, outlives_cancel_iff, or_iff_right hnow]
        exact Iff.rfl
      · rw [ih hlistening' (by rw [hsame]; exact h) hsteps.2, hsame, outlives_cons_iff hquiet]
        simp [movesOnTo_cons_iff, hquiet, hmoves]
      · have hcalled : (d.step renderer st).scheduler.Called
            (d.step renderer st).scheduler.generation := by
          rw [hadvance, Scheduler.advance_generation]
          exact h.advance
        have hsplit := exists_expects_of_moves steps h hquiet hmoves hadvance fun drawn =>
          Scheduler.previewOf d.scheduler.generation drawn = .ok p
        rw [ih hlistening' hcalled hsteps.2, outlives_cons_iff hquiet, hsplit, hadvance,
          h.mem_delivered_iff hlistening, Scheduler.advance_generation, or_assoc, or_assoc]

/-- Nothing outlives being taken back again if the service stopped the first time. -/
theorem not_outlives_of_silent (h : d.scheduler.Silent renderer) (hsteps : requests steps = 0) :
    ¬ Outlives renderer d steps p := by
  induction steps generalizing d with
  | nil => exact not_outlives_nil
  | cons st steps ih =>
      rw [requests_cons, Nat.add_eq_zero_iff] at hsteps
      rcases step_cases_of_no_request renderer d hsteps.1 with
        rfl | ⟨hquiet, _, hsame⟩ | ⟨hquiet, _, limit, hadvance⟩
      · have hsilent := Scheduler.silent_cancel h.not_goesOn
        rw [outlives_cancel_iff, not_or]
        exact ⟨fun ⟨w, hw, _⟩ => hsilent.not_expects w hw, ih hsilent hsteps.2⟩
      · rw [outlives_cons_iff hquiet]
        exact ih (by rw [hsame]; exact h) hsteps.2
      · rw [outlives_cons_iff hquiet]
        exact ih (by rw [hadvance]; exact h.advance) hsteps.2

theorem delivered_of_unheard (h : d.scheduler.listening = false) (steps : List (Step σ)) :
    (d.after renderer steps).scheduler.delivered = d.scheduler.delivered := by
  have key : (d.after renderer steps).scheduler.listening = false ∧
      (d.after renderer steps).scheduler.delivered = d.scheduler.delivered := by
    refine after_keeps (P := fun s => s.listening = false ∧ s.delivered = d.scheduler.delivered)
      (fun _ _ _ hs => hs) (fun _ hs => hs) (fun s document limit hs => ?_) ⟨h, rfl⟩ steps
    refine Scheduler.advance_keeps
      (P := fun s => s.listening = false ∧ s.delivered = d.scheduler.delivered)
      (fun v t ts hv => ?_) (fun _ _ hv => hv) hs
    have hunheard : v.listening = false := hv.1
    obtain ⟨_, _, _, _, heq⟩ := Scheduler.runTask_eq renderer document s.now limit v t
    refine ⟨?_, (Scheduler.runTask_unheard hunheard s.now t).trans hv.2⟩
    show (Scheduler.runTask renderer document s.now limit v t).listening = false
    rw [heq]
    exact hunheard
  exact key.2

theorem mem_delivered_of_taken_back (hlistening : d.scheduler.listening = true)
    (hsteps : requests steps = 0) :
    p ∈ (d.after renderer (.cancel :: steps)).scheduler.delivered ↔
      p ∈ d.scheduler.delivered ∨ Outlives renderer d (.cancel :: steps) p := by
  have hcalled : (d.step renderer .cancel).scheduler.Called d.scheduler.generation :=
    d.scheduler.over_cancel.called
  have hlistening' := (d.step_listening renderer .cancel).trans hlistening
  rw [after_cons, mem_delivered_of_called hlistening' hcalled hsteps, outlives_cancel_iff]
  exact Iff.rfl

/-- **Without a request at most one more preview is delivered, and it is a new one.** -/
theorem exists_delivered_of_no_request (renderer : Renderer) (delay : Nat) (listening : Bool)
    (content : σ) (steps later : List (Step σ)) (hlater : requests later = 0) :
    let d := (Desk.new delay listening content).after renderer steps
    ∃ new, (d.after renderer later).scheduler.delivered = d.scheduler.delivered ++ new ∧
      new.length ≤ 1 ∧ ∀ p ∈ new, p ∉ d.scheduler.delivered := by
  intro d
  obtain ⟨new, hdelivered, hnew⟩ := d.after_delivers renderer later
  have hnewest := newest_after renderer delay listening content (steps ++ later)
  rw [after_append] at hnewest
  have hgeneration : (d.after renderer later).scheduler.generation = d.scheduler.generation := by
    rw [generation_after, hlater, Nat.add_zero]
  -- all that is new is of the latest request, and a request has one preview
  have hsame : ∀ p ∈ new, p.generation = d.scheduler.generation := by
    intro p hp
    have hle := (hnewest.delivered_bounded p
      (by rw [hdelivered]; exact List.mem_append_right _ hp)).2
    rw [hgeneration] at hle
    exact Int.le_antisymm hle (hnew p hp)
  have hrising := hnewest.delivered_rising
  rw [hdelivered, List.map_append, List.pairwise_append] at hrising
  refine ⟨new, hdelivered, ?_, fun p hp hold => ?_⟩
  · match new, hrising, hsame with
    | [], _, _ => exact Nat.zero_le 1
    | [_], _, _ => exact Nat.le_refl 1
    | p :: q :: rest, hrising, hsame =>
        have hlt : p.generation < q.generation :=
          List.rel_of_pairwise_cons hrising.2.1 List.mem_cons_self
        rw [hsame p (by simp), hsame q (by simp)] at hlt
        exact absurd hlt (Int.lt_irrefl _)
  · exact absurd (hrising.2.2 _ (List.mem_map_of_mem hold) _ (List.mem_map_of_mem hp))
      (Int.lt_irrefl _)

/-- What outlives being taken back was not delivered before. -/
theorem Outlives.not_delivered {delay : Nat} {listening : Bool} {content : σ}
    {past : List (Step σ)}
    (h : Outlives renderer ((Desk.new delay listening content).after renderer past) steps p) :
    p ∉ ((Desk.new delay listening content).after renderer past).scheduler.delivered := by
  obtain ⟨before, later, time, drawn, _, ⟨w, ⟨t, ht, hlatest, _⟩, _⟩, _, hpreview⟩ := h
  intro hp
  obtain ⟨new, hdelivered, _⟩ :=
    ((Desk.new delay listening content).after renderer past).after_delivers renderer before
  have hnewest := newest_after renderer delay listening content (past ++ before)
  rw [after_append] at hnewest
  -- as long as the service is at work, nothing has come of the latest request
  have hopen := (hnewest.open_latest (List.mem_map.mpr ⟨t, ht, hlatest⟩)).2 p
    (by rw [hdelivered]; exact List.mem_append_left new hp)
  rw [Scheduler.previewOf_generation hpreview] at hopen
  exact absurd hopen (Int.lt_irrefl _)

/--
**What is delivered of a request that was taken back.**

Until something is asked for again, at most one preview is delivered. It is delivered just if the
service was at work on the call for the latest request when that was taken back, goes on with it
all the same, also when it is told again, and time moves on to the end of the call. So nothing is
delivered if the request was still waiting or was done, and nothing if the service stops.
-/
theorem taken_back_is_delivered_iff (renderer : Renderer) (delay : Nat) (listening : Bool)
    (content : σ) (steps later : List (Step σ)) (hlater : requests later = 0) :
    let d := (Desk.new delay listening content).after renderer steps
    ∃ new, (d.after renderer (.cancel :: later)).scheduler.delivered =
        d.scheduler.delivered ++ new ∧ new.length ≤ 1 ∧
      (∀ p, p ∈ new ↔ listening = true ∧ Outlives renderer d (.cancel :: later) p) ∧
      ((∀ time drawn, ¬ d.scheduler.GoesOn renderer time drawn) → new = []) := by
  intro d
  have hrequests : requests (.cancel :: later) = 0 := by
    rw [requests_cons, hlater]
    rfl
  obtain ⟨new, hdelivered, hlength, honce⟩ :=
    exists_delivered_of_no_request renderer delay listening content steps _ hrequests
  have hmem : ∀ p, p ∈ new ↔ listening = true ∧ Outlives renderer d (.cancel :: later) p := by
    intro p
    have hlistens : d.scheduler.listening = listening :=
      (settled_after renderer (Desk.new delay listening content) steps).2
    cases listening with
    | false =>
        rw [delivered_of_unheard hlistens] at hdelivered
        simp [List.append_right_eq_self.mp hdelivered.symm]
    | true =>
        have hiff : p ∈ (d.after renderer (.cancel :: later)).scheduler.delivered ↔
            p ∈ d.scheduler.delivered ∨ Outlives renderer d (.cancel :: later) p :=
          mem_delivered_of_taken_back hlistens hlater
        rw [hdelivered, List.mem_append] at hiff
        exact ⟨fun hp => ⟨rfl, (hiff.mp (.inr hp)).resolve_left (honce p hp)⟩,
          fun ⟨_, hp⟩ => (hiff.mpr (.inr hp)).resolve_left hp.not_delivered⟩
  refine ⟨new, hdelivered, hlength, hmem, fun hstops => ?_⟩
  rw [List.eq_nil_iff_forall_not_mem]
  intro p hp
  have hsilent := Scheduler.silent_cancel hstops
  have hout := ((hmem p).mp hp).2
  rw [outlives_cancel_iff] at hout
  rcases hout with ⟨w, hw, _⟩ | hout
  · exact hsilent.not_expects w hw
  · exact not_outlives_of_silent hsilent hlater hout

/-- A service that goes on when it is told, and when it is told again answers with a reason. -/
theorem taken_back_is_delivered_iff_of_second_notice :
    let renderer : Renderer :=
      { prospect := fun _ cancellations =>
          if cancellations.length < 2 then .ends 50 (.picture [1]) else .ends 5 (.refused ['x']) }
    let steps : List (Step Text) := [.trigger id {}, .sleep 30]
    let later : List (Step Text) := [.edit (· ++ ['b']), .sleep 10, .cancel, .sleep 100]
    let d := (Desk.new 10 true ['a']).after renderer steps
    let p : Preview := { generation := 1, error := some ['x'] }
    requests later = 0 ∧ d.scheduler.delivered = [] ∧
      (d.after renderer (.cancel :: later)).scheduler.delivered = [p] ∧
      Outlives renderer d (.cancel :: later) p := by
  intro renderer steps later d p
  obtain ⟨new, hdelivered, _, hnew, _⟩ :=
    taken_back_is_delivered_iff renderer 10 true ['a'] steps later (by decide)
  have hp : p ∈ new := by
    have hall : (d.after renderer (.cancel :: later)).scheduler.delivered = [p] := by decide
    have hnone : d.scheduler.delivered = [] := by decide
    rw [hnone, List.nil_append] at hdelivered
    rw [← hdelivered, hall]
    exact List.mem_singleton.mpr rfl
  exact ⟨by decide, by decide, by decide, ((hnew p).mp hp).2⟩

/-- A service that does not care about being told: its picture is delivered. -/
theorem taken_back_is_delivered :
    ¬ ∀ (renderer : Renderer) (delay : Nat) (content : Text) (steps later : List (Step Text)),
      requests later = 0 →
        ((Desk.new delay true content).after renderer
          (steps ++ .cancel :: later)).scheduler.delivered =
        ((Desk.new delay true content).after renderer steps).scheduler.delivered := by
  intro h
  have hnothing := h { prospect := fun _ _ => .ends 50 (.picture [1]) } 10 ['a']
    [.trigger id {}, .sleep 30] [.sleep 100] (by decide)
  exact absurd hnothing (by decide)

end Desk

end LabelTemplate
