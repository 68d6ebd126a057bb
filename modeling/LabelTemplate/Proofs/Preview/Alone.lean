import LabelTemplate.Proofs.Preview.Moving

/-!
# One request among others

With a service that stops when it is cancelled, only the latest request matters. As long
as it is `Alone`, it is the only one of which something can come; what time moving on
adds to the scheduler's lists is then what that single request adds. Once a request is
`Over`, nothing comes of it any more. A request is alone when it is made, since it takes
back the one before it.
-/

namespace LabelTemplate

variable {π : Type}

/-- The service stops when it is cancelled. -/
def Renderer.Obedient (renderer : Renderer) : Prop :=
  ∀ call cancellations, cancellations ≠ [] → renderer.prospect call cancellations = .stops

theorem Task.run_of_cancelled {t : Task π} {renderer : Renderer} (hobedient : renderer.Obedient)
    (h : t.cancelled = true) (document : π → Text) (now limit : Nat) :
    t.run renderer document now limit = (none, .finished none) := by
  have hheed : t.heed renderer now = none := by
    unfold heed
    rw [h]
    cases t.phase with
    | waiting due => rfl
    | drawing w =>
        have hstops := hobedient w.call (w.cancellations ++ [now - w.since]) (by simp)
        simp only [Renderer.proceed, hstops, Option.map_none]
  rw [run, hheed]

theorem Task.ask_fst (t : Task π) (renderer : Renderer) (document : π → Text) (limit due : Nat) :
    (t.ask renderer document limit due).1 = t.call? document := by
  unfold ask
  cases t.call? document with
  | none => rfl
  | some call => rfl

/-- A request whose call comes to nothing is done when it asks. -/
theorem Task.ask_snd_of_nothing {t : Task π} {renderer : Renderer} {document : π → Text}
    {limit due : Nat}
    (h : ∀ call, t.call? document = some call → renderer.prospect call [] = .stops) :
    (t.ask renderer document limit due).2 = .finished none := by
  unfold ask
  cases hcall : t.call? document with
  | none => rfl
  | some call => simp only [Renderer.proceed, h call hcall]

theorem Task.ask_snd_of_ends {t : Task π} {renderer : Renderer} {document : π → Text}
    {limit due latency : Nat} {call : Call} {drawn : Drawn} (hcall : t.call? document = some call)
    (hends : renderer.prospect call [] = .ends latency drawn) :
    (t.ask renderer document limit due).2 =
      t.draw limit { call := call, since := due, due := due + latency, drawn := drawn } := by
  unfold ask
  simp only [hcall, Renderer.proceed, hends]

namespace Scheduler

/-- No request of this number that is not done satisfies the condition, now or ever. -/
def NoMore (s : Scheduler π) (K : Task π → Prop) (g : Nat) : Prop :=
  g ≤ s.generation ∧ ∀ u ∈ s.running, K u → u.generation ≠ g

/-- No call of this number will be made any more. -/
def Called (s : Scheduler π) (g : Nat) : Prop := s.NoMore Task.Waits g

/-- Nothing will come any more of the request with this number. -/
def Over (s : Scheduler π) (g : Nat) : Prop := s.NoMore (fun u => u.cancelled = false) g

/-- Of the request with this number nothing was called and nothing delivered in between. -/
structure Idle (g : Nat) (s v : Scheduler π) : Prop where
  /-- No call was made. -/
  calls : ∀ c : Call, c.generation = g → (c ∈ v.calls ↔ c ∈ s.calls)
  /-- No preview was delivered. -/
  delivered : ∀ p : Preview, p.generation = g → (p ∈ v.delivered ↔ p ∈ s.delivered)

/-- The latest request is not done, and all others were taken back. -/
structure Alone (s : Scheduler π) (t : Task π) : Prop where
  /-- It is not done. -/
  mem : t ∈ s.running
  /-- It was not taken back. -/
  kept : t.cancelled = false
  /-- It is the latest one. -/
  latest : t.generation = s.generation
  /-- All others were taken back. -/
  only : ∀ u ∈ s.running, u.cancelled = false → u = t

variable {s : Scheduler π} {renderer : Renderer} {document : π → Text} {limit g : Nat}
  {t u : Task π}

theorem advance_generation : (s.advance renderer document limit).generation = s.generation :=
  (s.advance_delivers renderer document limit).1

theorem Idle.of_eq {v : Scheduler π} (hcalls : v.calls = s.calls)
    (hdelivered : v.delivered = s.delivered) : Idle g s v :=
  ⟨fun c _ => by rw [hcalls], fun p _ => by rw [hdelivered]⟩

theorem Idle.trans {s v w : Scheduler π} (h : Idle g s v) (h' : Idle g v w) : Idle g s w :=
  ⟨fun c hc => (h'.calls c hc).trans (h.calls c hc),
    fun p hp => (h'.delivered p hp).trans (h.delivered p hp)⟩

/-! ## What is over stays over -/

/-- A new request has a number of its own, and those before it are taken back. -/
theorem NoMore.trigger {K : Task π → Prop} (hK : ∀ u, K u → u.cancelled = false)
    (h : s.NoMore K g) (provider : π) (label : Label) : (s.trigger provider label).NoMore K g := by
  refine ⟨Nat.le_succ_of_le h.1, fun u hu hu' => ?_⟩
  rcases List.mem_append.mp hu with hold | hnew
  · exact h.2 u (mem_running_cancel hold (hK u hu')).1 hu'
  · rw [List.mem_singleton.mp hnew]
    exact Nat.ne_of_gt (Nat.lt_succ_of_le h.1)

theorem NoMore.cancel {K : Task π → Prop} (hK : ∀ u, K u → u.cancelled = false)
    (h : s.NoMore K g) : s.cancel.NoMore K g :=
  ⟨h.1, fun u hu hu' => h.2 u (mem_running_cancel hu (hK u hu')).1 hu'⟩

theorem Called.advance (h : s.Called g) : (s.advance renderer document limit).Called g := by
  refine ⟨by rw [advance_generation]; exact h.1, fun u hu hwaits => ?_⟩
  obtain ⟨t, ht, hrun⟩ := mem_running_advance_iff.mp hu
  obtain ⟨hnumber, hwaiting⟩ := (t.run_spec renderer document s.now limit).1 u hrun
  rw [hnumber]
  exact h.2 t ht (hwaiting hwaits).1

theorem Called.mem_calls_iff (h : s.Called g) {c : Call} (hc : c.generation = g) :
    c ∈ (s.advance renderer document limit).calls ↔ c ∈ s.calls := by
  rw [mem_calls_advance_iff, or_iff_left]
  rintro ⟨t, ht, hrun⟩
  obtain ⟨hwaits, hnumber⟩ := (t.run_spec renderer document s.now limit).2 c hrun
  exact h.2 t ht hwaits (hnumber.symm.trans hc)

theorem not_cancelled_of_unfinished (hobedient : renderer.Obedient) {now : Nat}
    (hrun : (t.run renderer document now limit).2 = .unfinished u) : t.cancelled = false := by
  by_contra hcancelled
  rw [t.run_of_cancelled hobedient (by simpa using hcancelled)] at hrun
  exact absurd hrun (by simp)

theorem not_cancelled_of_finished (hobedient : renderer.Obedient) {now : Nat} {drawn : Drawn}
    (hrun : (t.run renderer document now limit).2 = .finished (some drawn)) :
    t.cancelled = false := by
  by_contra hcancelled
  rw [t.run_of_cancelled hobedient (by simpa using hcancelled)] at hrun
  exact absurd hrun (by simp)

theorem Over.advance (hobedient : renderer.Obedient) (h : s.Over g) :
    (s.advance renderer document limit).Over g := by
  refine ⟨by rw [advance_generation]; exact h.1, fun u hu _ => ?_⟩
  obtain ⟨t, ht, hrun⟩ := mem_running_advance_iff.mp hu
  rw [((t.run_spec renderer document s.now limit).1 u hrun).1]
  exact h.2 t ht (not_cancelled_of_unfinished hobedient hrun)

theorem Over.mem_delivered_iff (hobedient : renderer.Obedient) (hlistening : s.listening = true)
    (h : s.Over g) {p : Preview} (hp : p.generation = g) :
    p ∈ (s.advance renderer document limit).delivered ↔ p ∈ s.delivered := by
  rw [mem_delivered_advance_iff hlistening, or_iff_left]
  rintro ⟨t, ht, _, drawn, hrun, hpreview⟩
  refine h.2 t ht (not_cancelled_of_finished hobedient hrun) ?_
  have hnumber := previewOf_generation hpreview
  omega

/-- Once it is taken back, nothing comes of the latest request. -/
theorem over_cancel (s : Scheduler π) : s.cancel.Over s.generation :=
  ⟨Nat.le_refl _, fun _ hu hkept => (mem_running_cancel hu hkept).2⟩

/-- Once the next one is made, nothing comes of a request. -/
theorem over_trigger (s : Scheduler π) (provider : π) (label : Label) :
    (s.trigger provider label).Over s.generation := by
  refine ⟨Nat.le_succ _, fun u hu hkept => ?_⟩
  rcases List.mem_append.mp hu with hold | hnew
  · exact (mem_running_cancel hold hkept).2
  · rw [List.mem_singleton.mp hnew]
    exact Nat.ne_of_gt (Nat.lt_succ_self _)

theorem Over.called (h : s.Over g) : s.Called g :=
  ⟨h.1, fun u hu hwaits => h.2 u hu hwaits.1⟩

theorem Over.idle_advance (hobedient : renderer.Obedient) (hlistening : s.listening = true)
    (h : s.Over g) : Idle g s (s.advance renderer document limit) :=
  ⟨fun _ hc => h.called.mem_calls_iff hc, fun _ hp => h.mem_delivered_iff hobedient hlistening hp⟩

/-! ## The latest request alone -/

theorem Alone.mem_calls_iff (h : s.Alone t) {c : Call} :
    c ∈ (s.advance renderer document limit).calls ↔
      c ∈ s.calls ∨ (t.run renderer document s.now limit).1 = some c := by
  rw [mem_calls_advance_iff]
  refine or_congr_right ⟨fun ⟨u, hu, hrun⟩ => ?_, fun hrun => ⟨t, h.mem, hrun⟩⟩
  have hwaits := ((u.run_spec renderer document s.now limit).2 c hrun).1
  rwa [← h.only u hu hwaits.1]

theorem Alone.mem_delivered_iff (hobedient : renderer.Obedient) (hlistening : s.listening = true)
    (h : s.Alone t) {p : Preview} :
    p ∈ (s.advance renderer document limit).delivered ↔
      p ∈ s.delivered ∨ ∃ drawn,
        (t.run renderer document s.now limit).2 = .finished (some drawn) ∧
          previewOf t.generation drawn = .ok p := by
  rw [mem_delivered_advance_iff hlistening]
  refine or_congr_right ⟨fun ⟨u, hu, _, drawn, hrun, hpreview⟩ => ?_,
    fun hrun => ⟨t, h.mem, h.latest, hrun⟩⟩
  have hsame := h.only u hu (not_cancelled_of_finished hobedient hrun)
  exact hsame ▸ ⟨drawn, hrun, hpreview⟩

/-- All that is not done when time has moved on is what became of the latest request. -/
theorem Alone.run_eq_of_mem (hobedient : renderer.Obedient) (h : s.Alone t)
    (hu : u ∈ (s.advance renderer document limit).running) :
    (t.run renderer document s.now limit).2 = .unfinished u := by
  obtain ⟨t', ht', hrun⟩ := mem_running_advance_iff.mp hu
  rwa [h.only t' ht' (not_cancelled_of_unfinished hobedient hrun)] at hrun

theorem Alone.advance (hobedient : renderer.Obedient) (h : s.Alone t)
    (hrun : (t.run renderer document s.now limit).2 = .unfinished u) (hkept : u.cancelled = false) :
    (s.advance renderer document limit).Alone u := by
  refine ⟨mem_running_advance_iff.mpr ⟨t, h.mem, hrun⟩, hkept, ?_, fun v hv _ => ?_⟩
  · rw [advance_generation, ((t.run_spec renderer document s.now limit).1 u hrun).1, h.latest]
  · have hrun' := h.run_eq_of_mem hobedient hv
    rw [hrun] at hrun'
    exact (Progress.unfinished.inj hrun').symm

/-- When its waiting is over, the latest request makes no second call. -/
theorem Alone.called (hobedient : renderer.Obedient) (h : s.Alone t) {due : Nat}
    (hphase : t.phase = .waiting due) (hle : due ≤ limit) :
    (s.advance renderer document limit).Called t.generation := by
  refine ⟨by rw [advance_generation]; exact Nat.le_of_eq h.latest, fun u hu hwaits => ?_⟩
  have hrun := h.run_eq_of_mem hobedient hu
  rw [Task.run_of_le h.kept hphase hle] at hrun
  exact absurd hwaits (Task.ask_spec hrun).2

theorem Alone.over (hobedient : renderer.Obedient) (h : s.Alone t) {drawn : Option Drawn}
    (hrun : (t.run renderer document s.now limit).2 = .finished drawn) :
    (s.advance renderer document limit).Over t.generation := by
  refine ⟨by rw [advance_generation]; exact Nat.le_of_eq h.latest, fun u hu _ => ?_⟩
  have hrun' := h.run_eq_of_mem hobedient hu
  rw [hrun] at hrun'
  exact absurd hrun' (by simp)

theorem Alone.idle_advance (hobedient : renderer.Obedient) (hlistening : s.listening = true)
    (h : s.Alone t) (hrun : t.run renderer document s.now limit = (none, .unfinished u)) :
    Idle g s (s.advance renderer document limit) := by
  refine ⟨fun c _ => ?_, fun p _ => ?_⟩
  · rw [h.mem_calls_iff, hrun]
    simp
  · rw [h.mem_delivered_iff hobedient hlistening, hrun]
    simp

/-! ## A new request is alone -/

/-- Only the latest request was not taken back. -/
def LatestOnly (s : Scheduler π) : Prop :=
  ∀ t ∈ s.running, t.cancelled = false → t.generation = s.generation

/-- When the latest request is taken back, all are. -/
theorem LatestOnly.cancelled {s : Scheduler π} (h : s.LatestOnly) {t : Task π}
    (ht : t ∈ s.cancel.running) : t.cancelled = true := by
  by_contra hkept
  obtain ⟨hmem, hother⟩ := mem_running_cancel ht (by simpa using hkept)
  exact hother (h t hmem (by simpa using hkept))

theorem LatestOnly.cancel {s : Scheduler π} (h : s.LatestOnly) : s.cancel.LatestOnly :=
  fun _ ht hkept => absurd (h.cancelled ht) (by simp [hkept])

theorem LatestOnly.advance {s : Scheduler π} {renderer : Renderer} (hobedient : renderer.Obedient)
    (h : s.LatestOnly) (document : π → Text) (limit : Nat) :
    (s.advance renderer document limit).LatestOnly := by
  intro u hu _
  obtain ⟨t, ht, hrun⟩ := mem_running_advance_iff.mp hu
  rw [advance_generation, ((t.run_spec renderer document s.now limit).1 u hrun).1]
  exact h t ht (not_cancelled_of_unfinished hobedient hrun)

/-- A request that was just made is the only one of which something can come. -/
theorem LatestOnly.alone_trigger {s : Scheduler π} (h : s.LatestOnly) (provider : π)
    (label : Label) :
    (s.trigger provider label).Alone
      { generation := s.generation + 1, label := label, provider := provider
        phase := .waiting (s.now + s.delay) } where
  mem := List.mem_append_right _ (List.mem_singleton.mpr rfl)
  kept := rfl
  latest := rfl
  only := fun u hu hkept => by
    rcases List.mem_append.mp hu with hold | hnew
    · exact absurd (h.cancelled hold) (by simp [hkept])
    · exact List.mem_singleton.mp hnew

theorem LatestOnly.trigger {s : Scheduler π} (h : s.LatestOnly) (provider : π) (label : Label) :
    (s.trigger provider label).LatestOnly := by
  intro u hu hkept
  have halone := h.alone_trigger provider label
  rw [halone.only u hu hkept]
  exact halone.latest

end Scheduler

end LabelTemplate
