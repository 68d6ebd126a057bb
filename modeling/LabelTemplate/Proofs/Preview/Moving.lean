import LabelTemplate.Proofs.Preview.Latest

/-!
# What is there when time has moved on

Time moves on for all requests in one go. For each list that the scheduler keeps this
says what is in it afterwards: what was in it before, and what single requests added.
From then on nobody has to know that the requests are seen to one after the other.

Calls are made in the order of the requests, because only the latest one ever waits.
-/

namespace LabelTemplate

variable {π σ : Type}

namespace Task

variable {t : Task π} {renderer : Renderer} {document : π → Text} {now limit : Nat}

theorem heed_of_not_cancelled (h : t.cancelled = false) : t.heed renderer now = some t := by
  rw [heed, h]

/-- A request whose time has not come waits on. -/
theorem run_of_lt {due : Nat} (h : t.cancelled = false) (hphase : t.phase = .waiting due)
    (hlt : limit < due) : t.run renderer document now limit = (none, .unfinished t) := by
  rw [run, heed_of_not_cancelled h]
  simp only [hphase]
  rw [if_neg (by omega)]

/-- A request whose time has come asks. -/
theorem run_of_le {due : Nat} (h : t.cancelled = false) (hphase : t.phase = .waiting due)
    (hle : due ≤ limit) :
    t.run renderer document now limit = t.ask renderer document limit due := by
  rw [run, heed_of_not_cancelled h]
  simp only [hphase]
  rw [if_pos hle]

theorem run_of_drawing {w : Drawing} (h : t.cancelled = false) (hphase : t.phase = .drawing w) :
    t.run renderer document now limit = (none, t.draw limit w) := by
  rw [run, heed_of_not_cancelled h]
  simp only [hphase]

theorem draw_finished {w : Drawing} (hle : w.due ≤ limit) :
    t.draw limit w = .finished (some w.drawn) := by
  rw [draw, if_pos hle]

end Task

namespace Scheduler

variable {renderer : Renderer} {document : π → Text} {limit : Nat} {s : Scheduler π}

/-! ## What is in the lists -/

/--
If each request adds to something by itself, whatever the others do, then time moving on
adds what the single ones add.
-/
theorem advance_iff {K H : Scheduler π → Prop} {A : Task π → Prop}
    (hkeep : ∀ v t, K v → K (runTask renderer document s.now limit v t))
    (hadds : ∀ v t, K v → (H (runTask renderer document s.now limit v t) ↔ H v ∨ A t))
    (hnow : ∀ v, H { v with now := limit } ↔ H v) (hK : K { s with running := [] }) :
    H (s.advance renderer document limit) ↔ H { s with running := [] } ∨ ∃ t ∈ s.running, A t := by
  have key : ∀ (ts : List (Task π)) (v : Scheduler π), K v →
      (H (ts.foldl (runTask renderer document s.now limit) v) ↔ H v ∨ ∃ t ∈ ts, A t) := by
    intro ts
    induction ts with
    | nil => intro v _; simp
    | cons t ts ih =>
        intro v hv
        rw [List.foldl_cons, ih _ (hkeep v t hv), hadds v t hv]
        simp [or_assoc]
  rw [advance, hnow, key s.running _ hK]

theorem complete_lists (s : Scheduler π) (generation : Nat) (drawn : Drawn) :
    (s.complete generation drawn).running = s.running ∧
      (s.complete generation drawn).calls = s.calls := by
  rcases complete_cases s generation drawn with h | ⟨_, ⟨_, _, h⟩ | ⟨_, _, h⟩⟩ <;>
    rw [h] <;> exact ⟨rfl, rfl⟩

/-- **The requests that are not done when time has moved on.** -/
theorem mem_running_advance_iff {u : Task π} :
    u ∈ (s.advance renderer document limit).running ↔
      ∃ t ∈ s.running, (t.run renderer document s.now limit).2 = .unfinished u := by
  refine (advance_iff (K := fun _ => True) (H := fun v => u ∈ v.running)
    (A := fun t => (t.run renderer document s.now limit).2 = .unfinished u)
    (fun _ _ _ => trivial) (fun v t _ => ?_) (fun _ => Iff.rfl) trivial).trans ?_
  · rcases runTask_cases renderer document s.now limit v t with
      ⟨w, hw, heq⟩ | ⟨hw, heq⟩ | ⟨drawn, hw, heq⟩
    · rw [heq, hw]
      simp [eq_comm]
    · rw [heq, hw]
      simp
    · rw [heq, hw, (complete_lists _ _ _).1]
      simp
  · simp

/-- **The calls that were made when time has moved on.** -/
theorem mem_calls_advance_iff {c : Call} :
    c ∈ (s.advance renderer document limit).calls ↔
      c ∈ s.calls ∨ ∃ t ∈ s.running, (t.run renderer document s.now limit).1 = some c := by
  refine advance_iff (K := fun _ => True) (H := fun v => c ∈ v.calls)
    (A := fun t => (t.run renderer document s.now limit).1 = some c)
    (fun _ _ _ => trivial) (fun v t _ => ?_) (fun _ => Iff.rfl) trivial
  rcases runTask_cases renderer document s.now limit v t with
    ⟨w, _, heq⟩ | ⟨_, heq⟩ | ⟨drawn, _, heq⟩
  · rw [heq]
    simp [Option.mem_toList]
  · rw [heq]
    simp [Option.mem_toList]
  · rw [heq, (complete_lists _ _ _).2]
    simp [Option.mem_toList]

/-- A listener gets the preview of the latest request, and of no other. -/
theorem mem_delivered_complete_iff (s : Scheduler π) (hlistening : s.listening = true)
    {generation : Nat} {drawn : Drawn} {p : Preview} :
    p ∈ (s.complete generation drawn).delivered ↔
      p ∈ s.delivered ∨ generation = s.generation ∧ previewOf generation drawn = .ok p := by
  unfold complete
  by_cases hlatest : generation = s.generation
  · rw [if_pos hlatest]
    cases hpreview : previewOf generation drawn with
    | ok preview => simp [hlistening, hlatest, eq_comm]
    | error reason => simp
  · rw [if_neg hlatest]
    simp [hlatest]

/-- **The previews that somebody who listens has got when time has moved on.** -/
theorem mem_delivered_advance_iff (hlistening : s.listening = true) {p : Preview} :
    p ∈ (s.advance renderer document limit).delivered ↔
      p ∈ s.delivered ∨ ∃ t ∈ s.running, t.generation = s.generation ∧ ∃ drawn,
        (t.run renderer document s.now limit).2 = .finished (some drawn) ∧
          previewOf t.generation drawn = .ok p := by
  refine advance_iff
    (K := fun v => v.listening = true ∧ v.generation = s.generation)
    (H := fun v => p ∈ v.delivered)
    (A := fun t => t.generation = s.generation ∧ ∃ drawn,
      (t.run renderer document s.now limit).2 = .finished (some drawn) ∧
        previewOf t.generation drawn = .ok p)
    (fun v t hv => ?_) (fun v t hv => ?_) (fun _ => Iff.rfl) ⟨hlistening, rfl⟩
  · obtain ⟨_, _, _, _, heq⟩ := runTask_eq renderer document s.now limit v t
    rw [heq]
    exact hv
  · rcases runTask_cases renderer document s.now limit v t with
      ⟨w, hw, heq⟩ | ⟨hw, heq⟩ | ⟨drawn, hw, heq⟩
    · rw [heq, hw]
      simp
    · rw [heq, hw]
      simp
    · rw [heq, hw, mem_delivered_complete_iff _ (by exact hv.1)]
      simp [hv.2]

/-! ## The order of the calls -/

/-- What the numbers of calls have to do with those of requests. -/
structure CallsRise (s : Scheduler π) : Prop where
  /-- Calls were made in the order of their requests, and one for each at most. -/
  rising : (s.calls.map Call.generation).Pairwise (· < ·)
  /-- No call is of a later request than the latest one. -/
  bounded : ∀ c ∈ s.calls, 0 < c.generation ∧ c.generation ≤ s.generation
  /-- Only the latest request waits, and as long as it does it made no call. -/
  waiting : ∀ t ∈ s.running, t.Waits →
    t.generation = s.generation ∧ ∀ c ∈ s.calls, c.generation < s.generation

theorem runTask_lists (renderer : Renderer) (document : π → Text) (now limit : Nat)
    (s : Scheduler π) (t : Task π) :
    (runTask renderer document now limit s t).calls =
        s.calls ++ (t.run renderer document now limit).1.toList ∧
      ∀ u ∈ (runTask renderer document now limit s t).running,
        u ∈ s.running ∨ (t.run renderer document now limit).2 = .unfinished u := by
  rcases runTask_cases renderer document now limit s t with
    ⟨w, hw, heq⟩ | ⟨_, heq⟩ | ⟨drawn, _, heq⟩
  · refine ⟨by rw [heq], fun u hu => ?_⟩
    rw [heq] at hu
    rcases List.mem_append.mp hu with hold | hnew
    · exact .inl hold
    · rw [List.mem_singleton.mp hnew]
      exact .inr hw
  · rw [heq]
    exact ⟨rfl, fun u hu => .inl hu⟩
  · rw [heq]
    obtain ⟨hrunning, hcalls⟩ := complete_lists
      { s with calls := s.calls ++ (t.run renderer document now limit).1.toList } t.generation drawn
    rw [hrunning, hcalls]
    exact ⟨rfl, fun u hu => .inl hu⟩

theorem CallsRise.of_calls_eq {s v : Scheduler π} (h : CallsRise s) (hcalls : v.calls = s.calls)
    (hgeneration : v.generation = s.generation)
    (hwaiting : ∀ u ∈ v.running, u.Waits → ∃ t ∈ s.running, t.Waits ∧ u.generation = t.generation) :
    CallsRise v where
  rising := by rw [hcalls]; exact h.rising
  bounded := by rw [hcalls, hgeneration]; exact h.bounded
  waiting := fun u hu hwaits => by
    obtain ⟨t, ht, ht', hnumber⟩ := hwaiting u hu hwaits
    rw [hcalls, hgeneration, hnumber]
    exact h.waiting t ht ht'

/-- The latest request calls, and nobody waits any more. -/
theorem CallsRise.of_calls_append {s v : Scheduler π} (h : CallsRise s) {c : Call}
    (hcalls : v.calls = s.calls ++ [c]) (hgeneration : v.generation = s.generation)
    (hc : c.generation = s.generation) (hpositive : 0 < s.generation)
    (hearlier : ∀ c' ∈ s.calls, c'.generation < s.generation)
    (hnobody : ∀ u ∈ v.running, ¬ u.Waits) : CallsRise v where
  rising := by
    rw [hcalls, List.map_append, List.pairwise_append]
    refine ⟨h.rising, List.pairwise_singleton _ _, fun g hg g' hg' => ?_⟩
    obtain ⟨c', hc', rfl⟩ := List.mem_map.mp hg
    rw [List.mem_singleton.mp hg', hc]
    exact hearlier c' hc'
  bounded := fun c' hc' => by
    rw [hcalls] at hc'
    rw [hgeneration]
    rcases List.mem_append.mp hc' with hold | hnew
    · exact h.bounded c' hold
    · rw [List.mem_singleton.mp hnew, hc]
      exact ⟨hpositive, Nat.le_refl _⟩
  waiting := fun u hu hwaits => absurd hwaits (hnobody u hu)

/-- Whoever calls was the only one that waited, and waits no more. -/
theorem CallsRise.runTask {renderer : Renderer} {document : π → Text} {now limit : Nat}
    {s : Scheduler π} {t : Task π} {ts : List (Task π)} (hnewest : Newest (s.beside (t :: ts)))
    (h : CallsRise (s.beside (t :: ts))) :
    CallsRise ((runTask renderer document now limit s t).beside ts) := by
  obtain ⟨hcalls, hrunning⟩ := runTask_lists renderer document now limit s t
  obtain ⟨_, _, _, _, heq⟩ := runTask_eq renderer document now limit s t
  have hgeneration : (Scheduler.runTask renderer document now limit s t).generation =
      s.generation := by rw [heq]
  obtain ⟨hkept, hcaller⟩ := t.run_spec renderer document now limit
  have hself : t ∈ (s.beside (t :: ts)).running := by simp [beside]
  have hothers : ∀ u ∈ (s.beside ts).running, u ∈ (s.beside (t :: ts)).running := by
    intro u hu
    rcases List.mem_append.mp hu with hu | hu
    · exact List.mem_append_left _ hu
    · exact List.mem_append_right _ (List.mem_cons_of_mem t hu)
  have hleft : ∀ u ∈ ((Scheduler.runTask renderer document now limit s t).beside ts).running,
      u ∈ (s.beside ts).running ∨ (t.run renderer document now limit).2 = .unfinished u := by
    intro u hu
    rcases List.mem_append.mp hu with hu | hu
    · exact (hrunning u hu).imp_left (List.mem_append_left ts)
    · exact .inl (List.mem_append_right _ hu)
  cases hcall : (t.run renderer document now limit).1 with
  | none =>
      rw [hcall, Option.toList_none, List.append_nil] at hcalls
      refine h.of_calls_eq hcalls hgeneration fun u hu hwaits => ?_
      rcases hleft u hu with hu | hu
      · exact ⟨u, hothers u hu, hwaits, rfl⟩
      · obtain ⟨hnumber, hwaiting⟩ := hkept u hu
        exact ⟨t, hself, (hwaiting hwaits).1, hnumber⟩
  | some c =>
      obtain ⟨hwaits, hnumber⟩ := hcaller c hcall
      obtain ⟨hlatest, hearlier⟩ := h.waiting t hself hwaits
      obtain ⟨hpositive, _⟩ := hnewest.bounded _ (hlatest ▸ mem_numbers_beside s t ts)
      rw [hcall, Option.toList_some] at hcalls
      refine h.of_calls_append hcalls hgeneration (hnumber.trans hlatest) hpositive hearlier
        fun u hu hwaits' => ?_
      rcases hleft u hu with hu | hu
      · -- another request that waits would have the latest number as well
        have hsame : u.generation = t.generation :=
          (h.waiting u (hothers u hu) hwaits').1.trans hlatest.symm
        exact hnewest.not_mem_numbers (List.mem_map.mpr ⟨u, hu, hsame⟩)
      · have hnone := ((hkept u hu).2 hwaits').2
        rw [hcall] at hnone
        exact absurd hnone (by simp)

theorem CallsRise.advance {s : Scheduler π} (hnewest : Newest s) (h : CallsRise s)
    (renderer : Renderer) (document : π → Text) (limit : Nat) :
    CallsRise (s.advance renderer document limit) := by
  have key : Newest (s.advance renderer document limit) ∧
      CallsRise (s.advance renderer document limit) :=
    advance_keeps (P := fun v => Newest v ∧ CallsRise v)
      (fun v t ts hv => ⟨hv.1.runTask, hv.2.runTask hv.1⟩)
      (fun v time hv => ⟨hv.1.of_sublist (List.Sublist.refl _) rfl rfl rfl rfl,
        hv.2.of_calls_eq rfl rfl fun u hu hwaits => ⟨u, hu, hwaits, rfl⟩⟩) ⟨hnewest, h⟩
  exact key.2

/-- What is left of a request that was there when the latest one was taken back. -/
theorem mem_running_cancel {s : Scheduler π} {u : Task π} (hu : u ∈ s.cancel.running)
    (hcancelled : u.cancelled = false) : u ∈ s.running ∧ u.generation ≠ s.generation := by
  obtain ⟨t, ht, rfl⟩ := List.mem_map.mp hu
  split at hcancelled
  · exact absurd hcancelled (by simp)
  · rename_i hother
    rw [if_neg hother]
    exact ⟨ht, hother⟩

theorem CallsRise.cancel {s : Scheduler π} (h : CallsRise s) : CallsRise s.cancel :=
  h.of_calls_eq rfl rfl fun u hu hwaits =>
    ⟨u, (mem_running_cancel hu hwaits.1).1, hwaits, rfl⟩

theorem CallsRise.trigger {s : Scheduler π} (h : CallsRise s) (provider : π) (label : Label) :
    CallsRise (s.trigger provider label) where
  rising := h.rising
  bounded := fun c hc => by
    obtain ⟨hpositive, hle⟩ := h.bounded c hc
    exact ⟨hpositive, Nat.le_succ_of_le hle⟩
  waiting := fun u hu hwaits => by
    rcases List.mem_append.mp hu with hold | hnew
    · -- a request that waited before is taken back now
      obtain ⟨hmem, hother⟩ := mem_running_cancel hold hwaits.1
      exact absurd (h.waiting u hmem hwaits).1 hother
    · rw [List.mem_singleton.mp hnew]
      exact ⟨rfl, fun c hc => Nat.lt_succ_of_le (h.bounded c hc).2⟩

end Scheduler

namespace Desk

theorem callsRise_after (renderer : Renderer) (delay : Nat) (listening : Bool) (content : σ)
    (steps : List (Step σ)) :
    ((Desk.new delay listening content).after renderer steps).scheduler.CallsRise := by
  have key := after_keeps (P := fun s => s.Newest ∧ s.CallsRise)
    (fun s provider label h => ⟨h.1.trigger provider label, h.2.trigger provider label⟩)
    (fun s h => ⟨h.1.cancel, h.2.cancel⟩)
    (fun s document limit h => ⟨h.1.advance renderer document limit,
      h.2.advance h.1 renderer document limit⟩)
    (d := Desk.new delay listening content) ⟨newest_after renderer delay listening content [], ?_⟩
    steps
  · exact key.2
  · exact ⟨by simp [new], by simp [new], by simp [new]⟩

end Desk

end LabelTemplate
