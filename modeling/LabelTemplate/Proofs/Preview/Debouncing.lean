import LabelTemplate.Proofs.Preview.Alone
import LabelTemplate.Proofs.Preview.Reaching

/-!
# What is called and delivered, and when

A request is followed from the step in which it is made. It rests, first until its
waiting time is over and then until its call has come to an end: either the clock gets
there undisturbed, and the request is then still as it was, or nothing ever comes of it.
-/

namespace LabelTemplate

variable {σ : Type}

namespace Desk

variable {renderer : Renderer} {d : Desk σ}

/-- A step leaves the scheduler alone, or lets time pass, or ends the latest request. -/
theorem step_cases (renderer : Renderer) (d : Desk σ) (st : Step σ) :
    (st.quiet = true ∧ (d.step renderer st).scheduler = d.scheduler) ∨
      (st.quiet = true ∧ ∃ limit,
        (d.step renderer st).scheduler = d.scheduler.advance renderer d.document limit) ∨
      (st.quiet = false ∧ (d.step renderer st).scheduler.Over d.scheduler.generation ∧
        (d.step renderer st).scheduler.now = d.scheduler.now ∧
        (d.step renderer st).scheduler.calls = d.scheduler.calls ∧
        (d.step renderer st).scheduler.delivered = d.scheduler.delivered) := by
  cases st with
  | edit change => exact .inl ⟨rfl, rfl⟩
  | trigger provider label =>
      exact .inr (.inr ⟨rfl, d.scheduler.over_trigger provider label, rfl, rfl, rfl⟩)
  | cancel => exact .inr (.inr ⟨rfl, d.scheduler.over_cancel, rfl, rfl, rfl⟩)
  | sleep time => exact .inr (.inl ⟨rfl, _, rfl⟩)
  | wait => exact .inr (.inl ⟨rfl, _, rfl⟩)

theorem mem_calls_of_called {g : Nat} (h : d.scheduler.Called g) (steps : List (Step σ))
    {c : Call} (hc : c.generation = g) :
    c ∈ (d.after renderer steps).scheduler.calls ↔ c ∈ d.scheduler.calls := by
  have hwaits : ∀ u : Task (σ → Text), u.Waits → u.cancelled = false := fun _ hu => hu.1
  have key : (d.after renderer steps).scheduler.Called g ∧
      (c ∈ (d.after renderer steps).scheduler.calls ↔ c ∈ d.scheduler.calls) :=
    after_keeps (P := fun s => s.Called g ∧ (c ∈ s.calls ↔ c ∈ d.scheduler.calls))
      (fun _ provider label hs => ⟨hs.1.trigger hwaits provider label, hs.2⟩)
      (fun _ hs => ⟨hs.1.cancel hwaits, hs.2⟩)
      (fun _ _ _ hs => ⟨hs.1.advance, (hs.1.mem_calls_iff hc).trans hs.2⟩) ⟨h, Iff.rfl⟩ steps
  exact key.2

theorem idle_of_over (hobedient : renderer.Obedient) (hlistening : d.scheduler.listening = true)
    {g : Nat} (h : d.scheduler.Over g) (steps : List (Step σ)) :
    Scheduler.Idle g d.scheduler (d.after renderer steps).scheduler := by
  have key := after_keeps
    (P := fun s => s.Over g ∧ s.listening = true ∧ Scheduler.Idle g d.scheduler s)
    (fun _ provider label hs =>
      ⟨hs.1.trigger (fun _ hu => hu) provider label, hs.2.1, hs.2.2.trans (.of_eq rfl rfl)⟩)
    (fun _ hs => ⟨hs.1.cancel fun _ hu => hu, hs.2.1, hs.2.2.trans (.of_eq rfl rfl)⟩)
    (fun s document limit hs => by
      obtain ⟨_, _, _, _, heq⟩ := s.advance_eq renderer document limit
      refine ⟨hs.1.advance hobedient, ?_, hs.2.2.trans (hs.1.idle_advance hobedient hs.2.1)⟩
      rw [heq]
      exact hs.2.1) ⟨h, hlistening, .of_eq rfl rfl⟩ steps
  exact key.2.2

/--
The clock gets to a time in the step `st` after the quiet steps `before`, and up to that
step the request was the only one of which something could come, and nothing did.
-/
structure Arrives (renderer : Renderer) (d : Desk σ) (t : Task (σ → Text)) (time : Nat)
    (before : List (Step σ)) (st : Step σ) (limit : Nat) : Prop where
  /-- Nothing was asked for or taken back before. -/
  quiet_before : ∀ s ∈ before, s.quiet = true
  /-- Nothing is asked for or taken back in the step. -/
  quiet : st.quiet = true
  /-- The clock has not got to the time before. -/
  now_lt : (d.after renderer before).scheduler.now < time
  /-- The clock gets to the time, or beyond. -/
  le_limit : time ≤ limit
  /-- The step lets time pass. -/
  advance : ((d.after renderer before).step renderer st).scheduler =
    (d.after renderer before).scheduler.advance renderer (d.after renderer before).document limit
  /-- Somebody listens. -/
  listening : (d.after renderer before).scheduler.listening = true
  /-- The request is still as it was. -/
  alone : (d.after renderer before).scheduler.Alone t
  /-- Nothing has come of it. -/
  idle : Scheduler.Idle t.generation d.scheduler (d.after renderer before).scheduler

theorem Arrives.cons {t : Task (σ → Text)} {time limit : Nat} {before : List (Step σ)}
    {first st : Step σ} (h : Arrives renderer (d.step renderer first) t time before st limit)
    (hfirst : first.quiet = true)
    (hidle : Scheduler.Idle t.generation d.scheduler (d.step renderer first).scheduler) :
    Arrives renderer d t time (first :: before) st limit where
  quiet_before := fun s hs => by
    rcases List.mem_cons.mp hs with rfl | hs
    · exact hfirst
    · exact h.quiet_before s hs
  quiet := h.quiet
  now_lt := h.now_lt
  le_limit := h.le_limit
  advance := h.advance
  listening := h.listening
  alone := h.alone
  idle := hidle.trans h.idle

/-- The time is then reached at the desk as it was before the step, and at no other. -/
theorem Arrives.reaches_iff {t : Task (σ → Text)} {time limit : Nat} {before : List (Step σ)}
    {st : Step σ} (h : Arrives renderer d t time before st limit) (later : List (Step σ))
    {v : Desk σ} :
    Reaches renderer d (before ++ st :: later) time v ↔ v = d.after renderer before := by
  rw [reaches_append_of_lt h.quiet_before h.now_lt]
  refine reaches_cons_of_le h.now_lt ?_
  rw [h.advance]
  exact h.le_limit

/-- A step that rests the request, or gets to the time, or takes the request back. -/
theorem rests_step (hobedient : renderer.Obedient) {t : Task (σ → Text)} {time : Nat}
    (hrests : ∀ document now limit, limit < time →
      t.run renderer document now limit = (none, .unfinished t))
    (hlistening : d.scheduler.listening = true) (h : d.scheduler.Alone t)
    (hnow : d.scheduler.now < time) (st : Step σ) :
    (st.quiet = true ∧ (d.step renderer st).scheduler.now < time ∧
        (d.step renderer st).scheduler.Alone t ∧
        Scheduler.Idle t.generation d.scheduler (d.step renderer st).scheduler) ∨
      (∃ limit, Arrives renderer d t time [] st limit) ∨
      st.quiet = false ∧ (d.step renderer st).scheduler.now = d.scheduler.now ∧
        (d.step renderer st).scheduler.Over t.generation ∧
        Scheduler.Idle t.generation d.scheduler (d.step renderer st).scheduler := by
  rcases d.step_cases renderer st with
    ⟨hquiet, hsame⟩ | ⟨hquiet, limit, hadvance⟩ | ⟨hloud, hover, hsame, hcalls, hdelivered⟩
  · rw [hsame]
    exact .inl ⟨hquiet, hnow, h, .of_eq rfl rfl⟩
  · by_cases hle : time ≤ limit
    · exact .inr (.inl ⟨limit, by simp, hquiet, hnow, hle, hadvance, hlistening, h,
        .of_eq rfl rfl⟩)
    · have hlt : limit < time := by omega
      have hrun := hrests d.document d.scheduler.now limit hlt
      rw [hadvance]
      exact .inl ⟨hquiet, hlt, h.advance hobedient (congrArg Prod.snd hrun) h.kept,
        h.idle_advance hobedient hlistening hrun⟩
  · exact .inr (.inr ⟨hloud, hsame, h.latest ▸ hover, .of_eq hcalls hdelivered⟩)

/--
**A request that rests until some time.** Either the clock gets to that time undisturbed,
and nothing came of the request until then. Or the clock does not, and then nothing ever
comes of the request.
-/
theorem arrives_or_idle (hobedient : renderer.Obedient) {t : Task (σ → Text)} {time : Nat}
    (hrests : ∀ document now limit, limit < time →
      t.run renderer document now limit = (none, .unfinished t))
    (hlistening : d.scheduler.listening = true) (h : d.scheduler.Alone t)
    (hnow : d.scheduler.now < time) (steps : List (Step σ)) :
    (∃ before st later limit, steps = before ++ st :: later ∧
        Arrives renderer d t time before st limit) ∨
      (∀ v, ¬ Reaches renderer d steps time v) ∧
        Scheduler.Idle t.generation d.scheduler (d.after renderer steps).scheduler := by
  induction steps generalizing d with
  | nil => exact .inr ⟨fun v => not_reaches_nil, .of_eq rfl rfl⟩
  | cons st steps ih =>
      have hlistening' := (d.step_listening renderer st).trans hlistening
      rcases rests_step hobedient hrests hlistening h hnow st with
        ⟨hquiet, hlt, halone, hidle⟩ | ⟨limit, harrives⟩ | ⟨hloud, hsame, hover, hidle⟩
      · rcases ih hlistening' halone hlt with
          ⟨before, st', later, limit, rfl, harrives⟩ | ⟨hno, hidle'⟩
        · exact .inl ⟨st :: before, st', later, limit, rfl, harrives.cons hquiet hidle⟩
        · exact .inr ⟨fun v => (reaches_cons_of_lt hquiet hlt).not.mpr (hno v),
            hidle.trans hidle'⟩
      · exact .inl ⟨[], st, steps, limit, rfl, harrives⟩
      · exact .inr ⟨fun v => not_reaches_cons hloud hsame,
          hidle.trans (idle_of_over hobedient hlistening' hover steps)⟩

/--
What is delivered of a request that the service is at work on: its preview, if the clock
reaches the end of the call undisturbed.
-/
theorem mem_delivered_of_drawing (hobedient : renderer.Obedient)
    (hlistening : d.scheduler.listening = true) {t : Task (σ → Text)} {w : Drawing}
    (h : d.scheduler.Alone t) (hphase : t.phase = .drawing w) (hnow : d.scheduler.now < w.due)
    (steps : List (Step σ)) {p : Preview} (hp : p.generation = t.generation) :
    p ∈ (d.after renderer steps).scheduler.delivered ↔
      p ∈ d.scheduler.delivered ∨
        (∃ v, Reaches renderer d steps w.due v) ∧
          Scheduler.previewOf t.generation w.drawn = .ok p := by
  have hrun : ∀ document now limit, t.run renderer document now limit = (none, t.draw limit w) :=
    fun _ _ _ => Task.run_of_drawing h.kept hphase
  have hrests : ∀ document now limit, limit < w.due →
      t.run renderer document now limit = (none, .unfinished t) := by
    intro document now limit hlt
    rw [hrun, Task.draw, if_neg (by omega), ← hphase]
  rcases arrives_or_idle hobedient hrests hlistening h hnow steps with
    ⟨before, st, later, limit, rfl, harrives⟩ | ⟨hno, hidle⟩
  · -- the call comes to its end in this step, and nothing more comes of the request
    have hfinished := congrArg Prod.snd
      (hrun (d.after renderer before).document (d.after renderer before).scheduler.now limit)
    rw [Task.draw_finished harrives.le_limit] at hfinished
    have hover := harrives.alone.over hobedient hfinished
    rw [← harrives.advance] at hover
    have hlistening' := ((d.after renderer before).step_listening renderer st).trans
      harrives.listening
    rw [after_append, after_cons, (idle_of_over hobedient hlistening' hover later).delivered p hp,
      harrives.advance, harrives.alone.mem_delivered_iff hobedient harrives.listening, hfinished,
      harrives.idle.delivered p hp]
    simp [harrives.reaches_iff]
  · rw [hidle.delivered p hp]
    simp [hno]

/--
The call of a request that waits: it is made with the document of the time at which the
waiting is over, if the clock reaches that time undisturbed and there is a document.
-/
theorem mem_calls_of_waiting (hobedient : renderer.Obedient)
    (hlistening : d.scheduler.listening = true) {t : Task (σ → Text)} {due : Nat}
    (h : d.scheduler.Alone t) (hphase : t.phase = .waiting due) (hnow : d.scheduler.now < due)
    (steps : List (Step σ)) {c : Call} (hc : c.generation = t.generation) :
    c ∈ (d.after renderer steps).scheduler.calls ↔
      c ∈ d.scheduler.calls ∨
        ∃ v, Reaches renderer d steps due v ∧ t.call? v.document = some c := by
  rcases arrives_or_idle hobedient (fun _ _ _ => Task.run_of_lt h.kept hphase) hlistening h hnow
    steps with ⟨before, st, later, limit, rfl, harrives⟩ | ⟨hno, hidle⟩
  · -- the waiting is over in this step, and the request makes no call after it
    have hcalled : ((d.after renderer before).step renderer st).scheduler.Called t.generation := by
      rw [harrives.advance]
      exact harrives.alone.called hobedient hphase harrives.le_limit
    rw [after_append, after_cons, mem_calls_of_called hcalled later hc, harrives.advance,
      harrives.alone.mem_calls_iff, Task.run_of_le h.kept hphase harrives.le_limit, Task.ask_fst,
      harrives.idle.calls c hc]
    simp [harrives.reaches_iff]
  · rw [hidle.calls c hc]
    simp [hno]

/--
What is delivered of a request whose waiting is over in the first step: the preview that
its call comes to, if the clock reaches the end of the call undisturbed.
-/
theorem mem_delivered_of_asking (hobedient : renderer.Obedient)
    (hlistening : d.scheduler.listening = true) {t : Task (σ → Text)} {due limit : Nat}
    (h : d.scheduler.Alone t) (hphase : t.phase = .waiting due) (hnow : d.scheduler.now < due)
    (hle : due ≤ limit) {st : Step σ} (hquiet : st.quiet = true)
    (hadvance : (d.step renderer st).scheduler = d.scheduler.advance renderer d.document limit)
    (steps : List (Step σ)) {p : Preview} (hp : p.generation = t.generation) :
    p ∈ ((d.step renderer st).after renderer steps).scheduler.delivered ↔
      p ∈ d.scheduler.delivered ∨
        ∃ call latency drawn, t.call? d.document = some call ∧
          renderer.prospect call [] = .ends latency drawn ∧
          (∃ v, Reaches renderer d (st :: steps) (due + latency) v) ∧
          Scheduler.previewOf t.generation drawn = .ok p := by
  have hlistening' := (d.step_listening renderer st).trans hlistening
  have hnow' : (d.step renderer st).scheduler.now = limit := by rw [hadvance]; rfl
  have hrun : t.run renderer d.document d.scheduler.now limit =
      t.ask renderer d.document limit due := Task.run_of_le h.kept hphase hle
  by_cases hends : ∃ call latency drawn, t.call? d.document = some call ∧
      renderer.prospect call [] = .ends latency drawn
  · obtain ⟨call, latency, drawn, hcall, hends⟩ := hends
    have hasked : (t.run renderer d.document d.scheduler.now limit).2 =
        t.draw limit { call := call, since := due, due := due + latency, drawn := drawn } := by
      rw [hrun]
      exact Task.ask_snd_of_ends hcall hends
    -- so the right-hand side speaks of this call and what it comes to
    have honly : (∃ call latency drawn, t.call? d.document = some call ∧
        renderer.prospect call [] = .ends latency drawn ∧
        (∃ v, Reaches renderer d (st :: steps) (due + latency) v) ∧
        Scheduler.previewOf t.generation drawn = .ok p) ↔
        (∃ v, Reaches renderer d (st :: steps) (due + latency) v) ∧
          Scheduler.previewOf t.generation drawn = .ok p := by
      simp [hcall, hends]
    rw [honly]
    by_cases hdone : due + latency ≤ limit
    · rw [Task.draw_finished hdone] at hasked
      have hreached : ∃ v, Reaches renderer d (st :: steps) (due + latency) v :=
        ⟨d, (reaches_cons_of_le (Nat.lt_add_right latency hnow) (hnow'.symm ▸ hdone)).mpr rfl⟩
      have hidle := idle_of_over hobedient hlistening' (hadvance ▸ h.over hobedient hasked) steps
      rw [hidle.delivered p hp, hadvance, h.mem_delivered_iff hobedient hlistening, hasked]
      simp [hreached]
    · rw [Task.draw, if_neg hdone] at hasked
      have hlt : (d.step renderer st).scheduler.now < due + latency := by rw [hnow']; omega
      have halone := hadvance ▸ h.advance hobedient hasked h.kept
      rw [mem_delivered_of_drawing hobedient hlistening' halone rfl hlt steps hp, hadvance,
        h.mem_delivered_iff hobedient hlistening, hasked]
      simp only [reaches_cons_of_lt hquiet hlt]
      simp
  · -- nothing comes of the call, or there is none
    have hnothing : (t.run renderer d.document d.scheduler.now limit).2 = .finished none := by
      rw [hrun]
      refine Task.ask_snd_of_nothing fun call hcall => ?_
      cases hprospect : renderer.prospect call [] with
      | stops => rfl
      | ends latency drawn => exact absurd ⟨call, latency, drawn, hcall, hprospect⟩ hends
    have hidle := idle_of_over hobedient hlistening' (hadvance ▸ h.over hobedient hnothing) steps
    rw [hidle.delivered p hp, hadvance, h.mem_delivered_iff hobedient hlistening, hnothing]
    refine or_congr_right ⟨?_, ?_⟩
    · rintro ⟨_, hno, _⟩
      exact absurd hno (by simp)
    · rintro ⟨call, latency, drawn, hcall, hprospect, _⟩
      exact absurd ⟨call, latency, drawn, hcall, hprospect⟩ hends

/--
What is delivered of a request that waits: the preview that its call comes to, if the
clock also reaches the end of the call undisturbed.
-/
theorem mem_delivered_of_waiting (hobedient : renderer.Obedient)
    (hlistening : d.scheduler.listening = true) {t : Task (σ → Text)} {due : Nat}
    (h : d.scheduler.Alone t) (hphase : t.phase = .waiting due) (hnow : d.scheduler.now < due)
    (steps : List (Step σ)) {p : Preview} (hp : p.generation = t.generation) :
    p ∈ (d.after renderer steps).scheduler.delivered ↔
      p ∈ d.scheduler.delivered ∨
        ∃ v call latency drawn, Reaches renderer d steps due v ∧ t.call? v.document = some call ∧
          renderer.prospect call [] = .ends latency drawn ∧
          (∃ v', Reaches renderer d steps (due + latency) v') ∧
          Scheduler.previewOf t.generation drawn = .ok p := by
  rcases arrives_or_idle hobedient (fun _ _ _ => Task.run_of_lt h.kept hphase) hlistening h hnow
    steps with ⟨before, st, later, limit, rfl, harrives⟩ | ⟨hno, hidle⟩
  · have hlater : ∀ latency v', Reaches renderer d (before ++ st :: later) (due + latency) v' ↔
        Reaches renderer (d.after renderer before) (st :: later) (due + latency) v' :=
      fun latency _ => reaches_append_of_lt harrives.quiet_before
        (Nat.lt_add_right latency harrives.now_lt)
    rw [after_append, after_cons, mem_delivered_of_asking hobedient harrives.listening
      harrives.alone hphase harrives.now_lt harrives.le_limit harrives.quiet harrives.advance later
      hp, harrives.idle.delivered p hp]
    simp [harrives.reaches_iff, hlater]
  · rw [hidle.delivered p hp]
    simp [hno]

end Desk

end LabelTemplate
