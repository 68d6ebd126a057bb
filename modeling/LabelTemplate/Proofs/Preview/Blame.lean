import LabelTemplate.Proofs.Preview.Moving

/-!
# Where what goes wrong comes from

A reason that the service gives becomes a preview. What nobody takes care of is what
the latest request comes to, and whoever waits for it finds out. It is then the service
that failed: what a call comes to is at all times what the service says.
-/

namespace LabelTemplate

variable {π : Type}

/-- A service that, cancelled in some way or not at all, says what a call comes to. -/
def Renderer.Says (renderer : Renderer) (call : Call) (drawn : Drawn) : Prop :=
  ∃ cancellations time, renderer.prospect call cancellations = .ends time drawn

/-- What a call comes to is what the service says. -/
def Drawing.Honest (renderer : Renderer) (w : Drawing) : Prop :=
  renderer.Says w.call w.drawn

theorem Drawing.honest_of_proceed {renderer : Renderer} {call : Call} {since now : Nat}
    {cancellations : List Nat} {w : Drawing}
    (h : renderer.proceed call since cancellations now = some w) :
    w.call = call ∧ w.Honest renderer := by
  unfold Renderer.proceed at h
  split at h
  · exact absurd h (by simp)
  · rename_i time drawn hprospect
    rw [← Option.some.inj h]
    exact ⟨rfl, cancellations, time, hprospect⟩

namespace Task

variable {renderer : Renderer} {document : π → Text} {limit : Nat} {calls : List Call}

/-- A request that takes notice of being cancelled goes on with the same call. -/
theorem heed_honest {t u : Task π} {now : Nat}
    (h : ∀ w, t.phase = .drawing w → w.call ∈ calls ∧ w.Honest renderer)
    (hheed : t.heed renderer now = some u) :
    ∀ w, u.phase = .drawing w → w.call ∈ calls ∧ w.Honest renderer := by
  unfold heed at hheed
  split at hheed
  · rwa [← Option.some.inj hheed]
  · exact absurd hheed (by simp)
  · rename_i d hcancelled hphase
    obtain ⟨w', hproceed, rfl⟩ := Option.map_eq_some_iff.mp hheed
    obtain ⟨hcall, hhonest⟩ := Drawing.honest_of_proceed hproceed
    intro w hw
    obtain rfl := Phase.drawing.inj hw
    exact ⟨hcall ▸ (h d hphase).1, hhonest⟩

theorem draw_honest (t : Task π) (limit : Nat) {w : Drawing}
    (h : w.call ∈ calls ∧ w.Honest renderer) :
    (∀ u w', t.draw limit w = .unfinished u → u.phase = .drawing w' →
        w'.call ∈ calls ∧ w'.Honest renderer) ∧
      ∀ drawn, t.draw limit w = .finished (some drawn) →
        ∃ call ∈ calls, renderer.Says call drawn := by
  refine ⟨fun u w' hu hw' => ?_, fun drawn hdrawn => ?_⟩
  · obtain rfl := draw_unfinished hu
    obtain rfl := Phase.drawing.inj hw'
    exact h
  · unfold draw at hdrawn
    split at hdrawn
    · obtain rfl : w.drawn = drawn := by simpa using hdrawn
      exact ⟨w.call, h⟩
    · exact absurd hdrawn (by simp)

/-- Whatever a call comes to when time moves on, the service says so. -/
theorem run_honest (t : Task π) (document : π → Text) (now limit : Nat)
    (h : ∀ w, t.phase = .drawing w → w.call ∈ calls ∧ w.Honest renderer) :
    (∀ u w, (t.run renderer document now limit).2 = .unfinished u → u.phase = .drawing w →
        w.call ∈ calls ++ (t.run renderer document now limit).1.toList ∧ w.Honest renderer) ∧
      ∀ drawn, (t.run renderer document now limit).2 = .finished (some drawn) →
        ∃ call ∈ calls ++ (t.run renderer document now limit).1.toList,
          renderer.Says call drawn := by
  unfold run
  cases hheed : t.heed renderer now with
  | none => simp
  | some v =>
      have hv := heed_honest h hheed
      simp only
      cases hphase : v.phase with
      | drawing w => simpa using v.draw_honest limit (hv w hphase)
      | waiting due =>
          simp only
          split
          · unfold ask
            cases hcall : v.call? document with
            | none => simp
            | some call =>
                simp only
                cases hproceed : renderer.proceed call due [] due with
                | none => simp
                | some w =>
                    obtain ⟨hsame, hhonest⟩ := Drawing.honest_of_proceed hproceed
                    exact v.draw_honest limit ⟨by simp [hsame], hhonest⟩
          · refine ⟨fun u w hu hw => ?_, by simp⟩
            obtain rfl := Progress.unfinished.inj hu
            exact absurd hw (by simp [hphase])

end Task

namespace Scheduler

theorem previewOf_eq_error {generation : Nat} {drawn : Drawn} {reason : Text}
    (h : previewOf generation drawn = .error reason) : drawn = .failed reason := by
  cases drawn <;> simp_all [previewOf]

/-- Something went wrong in a call only if the service says so. -/
structure Blames (renderer : Renderer) (s : Scheduler π) : Prop where
  /-- The service is at work on calls that were made, and says what they come to. -/
  drawing : ∀ t ∈ s.running, ∀ w, t.phase = .drawing w → w.call ∈ s.calls ∧ w.Honest renderer
  /-- It is the service that said what went wrong. -/
  outcome : ∀ reason, s.outcome = .error reason →
    ∃ call ∈ s.calls, renderer.Says call (.failed reason)

theorem Blames.cancel {renderer : Renderer} {s : Scheduler π} (h : s.Blames renderer) :
    s.cancel.Blames renderer where
  drawing := fun u hu w hw => by
    obtain ⟨t, ht, rfl⟩ := List.mem_map.mp hu
    refine h.drawing t ht w ?_
    split at hw <;> exact hw
  outcome := h.outcome

theorem Blames.trigger {renderer : Renderer} {s : Scheduler π} (h : s.Blames renderer)
    (provider : π) (label : Label) : (s.trigger provider label).Blames renderer where
  drawing := fun u hu w hw => by
    rcases List.mem_append.mp hu with hold | hnew
    · exact h.cancel.drawing u hold w hw
    · rw [List.mem_singleton.mp hnew] at hw
      exact absurd hw (by simp)
  outcome := fun reason hreason => absurd hreason (by simp [Scheduler.trigger])

theorem Blames.runTask {renderer : Renderer} {document : π → Text} {now limit : Nat}
    {s : Scheduler π} {t : Task π} {ts : List (Task π)}
    (h : (s.beside (t :: ts)).Blames renderer) :
    ((runTask renderer document now limit s t).beside ts).Blames renderer := by
  obtain ⟨hunfinished, hfinished⟩ := t.run_honest document now limit
    (h.drawing t (List.mem_append_right _ List.mem_cons_self))
  obtain ⟨hcalls, hrunning⟩ := runTask_lists renderer document now limit s t
  constructor
  · intro u hu w hw
    change w.call ∈ (Scheduler.runTask renderer document now limit s t).calls ∧ _
    have hothers : u ∈ (s.beside (t :: ts)).running →
        w.call ∈ s.calls ++ (t.run renderer document now limit).1.toList ∧ w.Honest renderer :=
      fun hu => (h.drawing u hu w hw).imp_left (List.mem_append_left _)
    rw [hcalls]
    rcases List.mem_append.mp hu with hu | hu
    · rcases hrunning u hu with hu | hu
      · exact hothers (List.mem_append_left _ hu)
      · exact hunfinished u w hu hw
    · exact hothers (List.mem_append_right _ (List.mem_cons_of_mem t hu))
  · intro reason hreason
    change ∃ call ∈ (Scheduler.runTask renderer document now limit s t).calls, _
    rw [hcalls]
    have hbefore : s.outcome = .error reason →
        ∃ call ∈ s.calls ++ (t.run renderer document now limit).1.toList,
          renderer.Says call (.failed reason) := fun hreason => by
      obtain ⟨call, hcall, hsays⟩ := h.outcome reason hreason
      exact ⟨call, List.mem_append_left _ hcall, hsays⟩
    rcases runTask_cases renderer document now limit s t with
      ⟨u, _, heq⟩ | ⟨_, heq⟩ | ⟨drawn, hdrawn, heq⟩
    · exact hbefore (by simpa [beside, heq] using hreason)
    · exact hbefore (by simpa [beside, heq] using hreason)
    · simp only [beside, heq] at hreason
      rcases complete_cases _ t.generation drawn with
        hdropped | ⟨_, ⟨_, _, hanswered⟩ | ⟨_, hbroken, hbroken'⟩⟩
      · rw [hdropped] at hreason
        exact hbefore hreason
      · rw [hanswered] at hreason
        exact absurd hreason (by simp)
      · rw [hbroken'] at hreason
        obtain rfl : drawn = .failed reason := by
          rw [← Except.error.inj hreason]
          exact previewOf_eq_error hbroken
        exact hfinished _ hdrawn

theorem Blames.advance {renderer : Renderer} {s : Scheduler π} (h : s.Blames renderer)
    (document : π → Text) (limit : Nat) :
    (s.advance renderer document limit).Blames renderer :=
  advance_keeps (fun _ _ _ hv => hv.runTask) (fun _ _ hv => ⟨hv.drawing, hv.outcome⟩) h

end Scheduler

end LabelTemplate
