import LabelTemplate.Proofs.Preview.Requests
import Mathlib.Data.List.Nodup

/-!
# Only the latest request is answered

A service may hold on to calls that were cancelled long ago, and several of them may
come to an end while a new request waits. What keeps their pictures from the screen is
the number of the request. The invariant behind it relates three things: the number of
the latest request, the numbers of all that are not done, and the previews that were
delivered. Its heart is `Newest.open_latest`: as long as the latest request is not done,
nothing has come of it yet, so that what comes of it comes after everything else.
-/

namespace LabelTemplate

variable {π σ : Type}

namespace Scheduler

/-- What the numbers of requests and previews have to do with each other. -/
structure Newest (s : Scheduler π) : Prop where
  /-- Requests that are not done stand in the order in which they were made. -/
  rising : s.numbers.Pairwise (· < ·)
  /-- None of them is later than the latest one. -/
  bounded : ∀ g ∈ s.numbers, 0 < g ∧ g ≤ s.generation
  /-- Previews were delivered in the order of their requests, and one for each at most. -/
  delivered_rising : (s.delivered.map Preview.generation).Pairwise (· < ·)
  /-- No preview is of a later request than the latest one. -/
  delivered_bounded : ∀ p ∈ s.delivered, 0 < p.generation ∧ p.generation ≤ s.generation
  /-- Nothing has come of the latest request as long as it is not done. -/
  open_latest : s.generation ∈ s.numbers →
    s.outcome = .ok none ∧ ∀ p ∈ s.delivered, p.generation < s.generation
  /-- What came of the latest request was delivered last. -/
  outcome_latest : ∀ p, s.outcome = .ok (some p) →
    p.generation = s.generation ∧ (s.listening = true → s.delivered.getLast? = some p)

/-! ## What keeps the invariant -/

/-- A request that is done drops out, and all else stays. -/
theorem Newest.of_sublist {s v : Scheduler π} (h : Newest s)
    (hnumbers : v.numbers.Sublist s.numbers) (hgeneration : v.generation = s.generation)
    (hdelivered : v.delivered = s.delivered) (houtcome : v.outcome = s.outcome)
    (hlistening : v.listening = s.listening) : Newest v where
  rising := h.rising.sublist hnumbers
  bounded := fun g hg => by rw [hgeneration]; exact h.bounded g (hnumbers.subset hg)
  delivered_rising := by rw [hdelivered]; exact h.delivered_rising
  delivered_bounded := by rw [hdelivered, hgeneration]; exact h.delivered_bounded
  open_latest := fun hopen => by
    rw [hdelivered, houtcome, hgeneration]
    exact h.open_latest (hnumbers.subset (hgeneration ▸ hopen))
  outcome_latest := by
    rw [hdelivered, houtcome, hgeneration, hlistening]
    exact h.outcome_latest

theorem Newest.cancel {s : Scheduler π} (h : Newest s) : Newest s.cancel := by
  have hnumbers : s.cancel.numbers = s.numbers := by
    rw [numbers, numbers, Scheduler.cancel, List.map_map]
    refine List.map_congr_left fun t _ => ?_
    simp only [Function.comp_apply]
    split <;> rfl
  exact h.of_sublist (by rw [hnumbers]) rfl rfl rfl rfl

theorem Newest.trigger {s : Scheduler π} (h : Newest s) (provider : π) (label : Label) :
    Newest (s.trigger provider label) := by
  have hnumbers : (s.trigger provider label).numbers = s.cancel.numbers ++ [s.generation + 1] := by
    rw [numbers, Scheduler.trigger, List.map_append]
    rfl
  have hbefore := h.cancel
  refine ⟨?_, fun g hg => ?_, h.delivered_rising, fun p hp => ?_, fun _ => ⟨rfl, fun p hp => ?_⟩,
    fun p hp => ?_⟩
  · rw [hnumbers, List.pairwise_append]
    refine ⟨hbefore.rising, List.pairwise_singleton _ _, fun g hg g' hg' => ?_⟩
    have hle : g ≤ s.generation := (hbefore.bounded g hg).2
    rw [List.mem_singleton.mp hg']
    omega
  · show 0 < g ∧ g ≤ s.generation + 1
    rw [hnumbers] at hg
    rcases List.mem_append.mp hg with hold | hnew
    · have hg' : 0 < g ∧ g ≤ s.generation := hbefore.bounded g hold
      omega
    · rw [List.mem_singleton.mp hnew]
      omega
  · have hp' := h.delivered_bounded p hp
    show 0 < p.generation ∧ p.generation ≤ ((s.generation + 1 : Nat) : Int)
    omega
  · have hp' := h.delivered_bounded p hp
    show p.generation < ((s.generation + 1 : Nat) : Int)
    omega
  · exact absurd hp (by simp [Scheduler.trigger])

theorem numbers_beside_sublist (s : Scheduler π) (t : Task π) (ts : List (Task π)) :
    (s.beside ts).numbers.Sublist (s.beside (t :: ts)).numbers := by
  simp [numbers, beside]

theorem mem_numbers_beside (s : Scheduler π) (t : Task π) (ts : List (Task π)) :
    t.generation ∈ (s.beside (t :: ts)).numbers := by
  simp [numbers, beside]

/-- Numbers rise strictly, so no other request has the number of one that is done. -/
theorem Newest.not_mem_numbers {s : Scheduler π} {t : Task π} {ts : List (Task π)}
    (h : Newest (s.beside (t :: ts))) : t.generation ∉ (s.beside ts).numbers := by
  have hnodup :
      (s.running.map Task.generation ++ t.generation :: ts.map Task.generation).Nodup := by
    have hrising := h.rising
    rw [numbers, beside, List.map_append, List.map_cons] at hrising
    exact hrising.imp fun hlt => Nat.ne_of_lt hlt
  have hnotin := (List.nodup_cons.mp (List.nodup_middle.mp hnodup)).1
  rwa [numbers, beside, List.map_append]

/--
**What comes of the latest request comes last.** It is delivered behind all that was
delivered before, and the request is then done.
-/
theorem Newest.answered {s : Scheduler π} {t : Task π} {ts : List (Task π)}
    (h : Newest (s.beside (t :: ts))) (hlatest : t.generation = s.generation) {preview : Preview}
    (hpreview : preview.generation = s.generation) :
    Newest ({ s with
      outcome := .ok (some preview)
      delivered := if s.listening then s.delivered ++ [preview] else s.delivered }.beside ts) := by
  have hsublist := numbers_beside_sublist s t ts
  have hmem : s.generation ∈ (s.beside (t :: ts)).numbers := hlatest ▸ mem_numbers_beside s t ts
  obtain ⟨hpositive, _⟩ := h.bounded s.generation hmem
  obtain ⟨_, hopen⟩ := h.open_latest hmem
  have hdone : s.generation ∉ (s.beside ts).numbers := hlatest ▸ h.not_mem_numbers
  refine ⟨h.rising.sublist hsublist, fun g hg => h.bounded g (hsublist.subset hg), ?_, ?_,
    fun hg => absurd hg hdone, fun p hp => ?_⟩
  · show List.Pairwise _
      (List.map _ (if s.listening then s.delivered ++ [preview] else s.delivered))
    split
    · rw [List.map_append, List.pairwise_append]
      refine ⟨h.delivered_rising, List.pairwise_singleton _ _, fun g hg g' hg' => ?_⟩
      obtain ⟨p, hp, rfl⟩ := List.mem_map.mp hg
      rw [List.mem_singleton.mp hg']
      exact hpreview ▸ hopen p hp
    · exact h.delivered_rising
  · intro p hp
    change p ∈ (if s.listening then s.delivered ++ [preview] else s.delivered) at hp
    show 0 < p.generation ∧ p.generation ≤ (s.generation : Int)
    split at hp
    · rcases List.mem_append.mp hp with hold | hnew
      · exact h.delivered_bounded p hold
      · rw [List.mem_singleton.mp hnew, hpreview]
        omega
    · exact h.delivered_bounded p hp
  · obtain rfl : preview = p := by
      have heq : (Except.ok (some preview) : Except Text (Option Preview)) = .ok (some p) := hp
      simpa using heq
    refine ⟨hpreview, fun hlistening => ?_⟩
    have hlistening' : s.listening = true := hlistening
    show (if s.listening then s.delivered ++ [preview] else s.delivered).getLast? = some preview
    rw [if_pos hlistening', List.getLast?_concat]

/-- Of an error that nobody takes care of comes no preview, and the request is done. -/
theorem Newest.broken {s : Scheduler π} {t : Task π} {ts : List (Task π)}
    (h : Newest (s.beside (t :: ts))) (hlatest : t.generation = s.generation) (reason : Text) :
    Newest ({ s with outcome := .error reason }.beside ts) := by
  have hsublist := numbers_beside_sublist s t ts
  have hdone : s.generation ∉ (s.beside ts).numbers := hlatest ▸ h.not_mem_numbers
  exact ⟨h.rising.sublist hsublist, fun g hg => h.bounded g (hsublist.subset hg),
    h.delivered_rising, h.delivered_bounded, fun hg => absurd hg hdone,
    fun p hp => absurd hp (by simp [beside])⟩

theorem Newest.runTask {renderer : Renderer} {document : π → Text} {now limit : Nat}
    {s : Scheduler π} {t : Task π} {ts : List (Task π)} (h : Newest (s.beside (t :: ts))) :
    Newest ((runTask renderer document now limit s t).beside ts) := by
  have hcases := runTask_cases renderer document now limit s t
  generalize hcall : (t.run renderer document now limit).1.toList = call at hcases
  have hnoted : Newest ({ s with calls := s.calls ++ call }.beside (t :: ts)) :=
    h.of_sublist (List.Sublist.refl _) rfl rfl rfl rfl
  have hgone := numbers_beside_sublist { s with calls := s.calls ++ call } t ts
  rcases hcases with ⟨u, hu, heq⟩ | ⟨_, heq⟩ | ⟨drawn, _, heq⟩
  · -- the request is not done: the numbers stay as they are
    rw [heq]
    have hgeneration := ((t.run_spec renderer document now limit).1 u hu).1
    refine h.of_sublist ?_ rfl rfl rfl rfl
    simp [numbers, beside, hgeneration]
  · rw [heq]
    exact hnoted.of_sublist hgone rfl rfl rfl rfl
  · rw [heq]
    rcases complete_cases { s with calls := s.calls ++ call } t.generation drawn with
      hdropped | ⟨hlatest, ⟨preview, hpreview, hanswered⟩ | ⟨reason, _, hbroken⟩⟩
    · rw [hdropped]
      exact hnoted.of_sublist hgone rfl rfl rfl rfl
    · rw [hanswered]
      have hnumber := previewOf_generation hpreview
      exact hnoted.answered hlatest (hnumber.trans (congrArg Nat.cast hlatest))
    · rw [hbroken]
      exact hnoted.broken hlatest reason

theorem Newest.advance {s : Scheduler π} (h : Newest s) (renderer : Renderer)
    (document : π → Text) (limit : Nat) : Newest (s.advance renderer document limit) :=
  advance_keeps (fun _ _ _ hv => hv.runTask)
    (fun _ _ hv => hv.of_sublist (List.Sublist.refl _) rfl rfl rfl rfl) h

/-! ## What is delivered -/

theorem runTask_delivers (renderer : Renderer) (document : π → Text) (now limit : Nat)
    (s : Scheduler π) (t : Task π) :
    ∃ new, (runTask renderer document now limit s t).delivered = s.delivered ++ new ∧
      ∀ p ∈ new, p.generation = s.generation := by
  have hcases := runTask_cases renderer document now limit s t
  generalize (t.run renderer document now limit).1.toList = call at hcases
  rcases hcases with ⟨u, _, heq⟩ | ⟨_, heq⟩ | ⟨drawn, _, heq⟩
  · rw [heq]
    exact ⟨[], by simp, by simp⟩
  · rw [heq]
    exact ⟨[], by simp, by simp⟩
  · rw [heq]
    rcases complete_cases { s with calls := s.calls ++ call } t.generation drawn with
      hdropped | ⟨hlatest, ⟨preview, hpreview, hanswered⟩ | ⟨reason, _, hbroken⟩⟩
    · rw [hdropped]
      exact ⟨[], by simp, by simp⟩
    · rw [hanswered]
      have hnumber : preview.generation = s.generation :=
        (previewOf_generation hpreview).trans (congrArg Nat.cast hlatest)
      refine ⟨if s.listening then [preview] else [], ?_, fun p hp => ?_⟩
      · show (if s.listening then s.delivered ++ [preview] else s.delivered) = _
        split <;> simp
      · split at hp
        · rw [List.mem_singleton.mp hp, hnumber]
        · exact absurd hp (by simp)
    · rw [hbroken]
      exact ⟨[], by simp, by simp⟩

/-- While time moves on the latest request stays the latest, and only it is answered. -/
theorem advance_delivers (s : Scheduler π) (renderer : Renderer) (document : π → Text)
    (limit : Nat) :
    (s.advance renderer document limit).generation = s.generation ∧
      ∃ new, (s.advance renderer document limit).delivered = s.delivered ++ new ∧
        ∀ p ∈ new, p.generation = s.generation := by
  refine advance_keeps (P := fun v => v.generation = s.generation ∧
    ∃ new, v.delivered = s.delivered ++ new ∧ ∀ p ∈ new, p.generation = s.generation)
    (fun v t ts hv => ?_) (fun _ _ hv => hv) ⟨rfl, [], by simp, by simp⟩
  obtain ⟨hgeneration, new, hdelivered, hnew⟩ := hv
  obtain ⟨_, _, _, _, heq⟩ := runTask_eq renderer document s.now limit v t
  obtain ⟨more, hmore, hlate⟩ := runTask_delivers renderer document s.now limit v t
  refine ⟨?_, new ++ more, ?_, fun p hp => ?_⟩
  · rw [heq]
    exact hgeneration
  · show (runTask renderer document s.now limit v t).delivered = _
    have hold : v.delivered = s.delivered ++ new := hdelivered
    rw [hmore, hold, List.append_assoc]
  · rcases List.mem_append.mp hp with hp | hp
    · exact hnew p hp
    · exact (hlate p hp).trans (congrArg Nat.cast hgeneration)

end Scheduler

namespace Desk

/-- **What is delivered in a step is of the latest request, before the step and after it.** -/
theorem step_delivers (renderer : Renderer) (d : Desk σ) (st : Step σ) :
    (d.step renderer st).scheduler.generation = d.scheduler.generation + requests [st] ∧
      ∃ new, (d.step renderer st).scheduler.delivered = d.scheduler.delivered ++ new ∧
        ∀ p ∈ new, p.generation = d.scheduler.generation ∧
          p.generation = (d.step renderer st).scheduler.generation := by
  have hquiet : ∀ limit, let v := d.scheduler.advance renderer d.document limit
      v.generation = d.scheduler.generation ∧ ∃ new, v.delivered = d.scheduler.delivered ++ new ∧
        ∀ p ∈ new, p.generation = d.scheduler.generation ∧ p.generation = v.generation := by
    intro limit v
    obtain ⟨hgeneration, new, hdelivered, hnew⟩ :=
      d.scheduler.advance_delivers renderer d.document limit
    exact ⟨hgeneration, new, hdelivered, fun p hp =>
      ⟨hnew p hp, (hnew p hp).trans (congrArg Nat.cast hgeneration.symm)⟩⟩
  cases st with
  | edit change => exact ⟨rfl, [], by simp [step], by simp⟩
  | trigger provider label =>
      exact ⟨rfl, [], by simp [step, Scheduler.trigger, Scheduler.cancel], by simp⟩
  | cancel => exact ⟨rfl, [], by simp [step, Scheduler.cancel], by simp⟩
  | sleep time => exact hquiet _
  | wait => exact hquiet _

theorem generation_after (renderer : Renderer) (d : Desk σ) (steps : List (Step σ)) :
    (d.after renderer steps).scheduler.generation = d.scheduler.generation + requests steps := by
  induction steps generalizing d with
  | nil => rfl
  | cons st steps ih =>
      rw [after, List.foldl_cons, ← after, ih, (d.step_delivers renderer st).1,
        requests_cons st steps]
      omega

/-- Whatever happens later, nothing older than the latest request of now is delivered. -/
theorem after_delivers (renderer : Renderer) (d : Desk σ) (later : List (Step σ)) :
    ∃ new, (d.after renderer later).scheduler.delivered = d.scheduler.delivered ++ new ∧
      ∀ p ∈ new, (d.scheduler.generation : Int) ≤ p.generation := by
  induction later generalizing d with
  | nil => exact ⟨[], by simp [after], by simp⟩
  | cons st later ih =>
      obtain ⟨hgeneration, new, hdelivered, hnew⟩ := d.step_delivers renderer st
      obtain ⟨more, hmore, hlate⟩ := ih (d.step renderer st)
      refine ⟨new ++ more, ?_, fun p hp => ?_⟩
      · rw [after, List.foldl_cons, ← after, hmore, hdelivered, List.append_assoc]
      · rcases List.mem_append.mp hp with hp | hp
        · exact Int.le_of_eq (hnew p hp).1.symm
        · have hle := hlate p hp
          rw [hgeneration] at hle
          omega

theorem newest_after (renderer : Renderer) (delay : Nat) (listening : Bool) (content : σ)
    (steps : List (Step σ)) :
    ((Desk.new delay listening content).after renderer steps).scheduler.Newest := by
  refine after_keeps (fun _ provider label h => h.trigger provider label) (fun _ h => h.cancel)
    (fun _ document limit h => h.advance renderer document limit) ?_ steps
  exact ⟨by simp [new, Scheduler.numbers], by simp [new, Scheduler.numbers], by simp [new],
    by simp [new], by simp [new, Scheduler.numbers], by simp [new]⟩

/--
**No stale preview is ever delivered.**

Whatever the service does with calls that were cancelled: what a step delivers is of the
latest request, so once a request was made nothing of an earlier one is delivered any
more. Deliveries go up strictly, one for each request at most. The number of the latest
request is how many were made; and if somebody listens, what waiting brings is what was
delivered last, and it is of the latest request.
-/
theorem only_latest_is_delivered (renderer : Renderer) (delay : Nat) (listening : Bool)
    (content : σ) (steps : List (Step σ)) :
    let d := (Desk.new delay listening content).after renderer steps
    d.scheduler.generation = requests steps ∧
      (d.scheduler.delivered.map Preview.generation).Pairwise (· < ·) ∧
      (∀ st, ∃ new, (d.step renderer st).scheduler.delivered = d.scheduler.delivered ++ new ∧
        ∀ p ∈ new, p.generation = d.scheduler.generation ∧
          p.generation = (d.step renderer st).scheduler.generation) ∧
      (∀ later, ∃ new,
        (d.after renderer later).scheduler.delivered = d.scheduler.delivered ++ new ∧
          ∀ p ∈ new, (requests steps : Int) ≤ p.generation) ∧
      (listening = true → ∀ p, (d.step renderer .wait).scheduler.outcome = .ok (some p) →
        (d.step renderer .wait).scheduler.delivered.getLast? = some p ∧
          p.generation = requests steps) := by
  intro d
  have hgeneration : d.scheduler.generation = requests steps := by
    rw [generation_after]
    exact Nat.zero_add _
  have hnewest := newest_after renderer delay listening content steps
  refine ⟨hgeneration, hnewest.delivered_rising, fun st => (d.step_delivers renderer st).2,
    fun later => ?_, fun hlistening p hp => ?_⟩
  · obtain ⟨new, hdelivered, hnew⟩ := d.after_delivers renderer later
    exact ⟨new, hdelivered, fun p hp => hgeneration ▸ hnew p hp⟩
  · -- waiting is a last step, so the invariant holds behind it
    have hlast := newest_after renderer delay listening content (steps ++ [.wait])
    rw [after_append] at hlast
    have hlistens := (settled_after renderer (Desk.new delay listening content)
      (steps ++ [.wait])).2
    rw [after_append] at hlistens
    obtain ⟨hnumber, hdelivered⟩ := hlast.outcome_latest p hp
    refine ⟨hdelivered (hlistens.trans hlistening), hnumber.trans ?_⟩
    have hkept : (d.step renderer .wait).scheduler.generation = d.scheduler.generation :=
      (d.step_delivers renderer .wait).1
    exact congrArg Nat.cast (hkept.trans hgeneration)

/-- A service that does not care about being cancelled: of its two calls the second is answered. -/
theorem only_latest_is_delivered_of_deaf_service :
    let renderer : Renderer := { prospect := fun _ _ => .ends 50 (.picture [1]) }
    let steps : List (Step Text) :=
      [.trigger id {}, .sleep 30, .trigger id {}, .sleep 55]
    let d := (Desk.new 10 true ['a']).after renderer steps
    d.scheduler.calls.map Call.generation = [1, 2] ∧
      (d.step renderer .wait).scheduler.outcome.toOption =
        some (some { generation := 2, image := some [1] }) ∧
      (∀ p, (d.step renderer .wait).scheduler.outcome = .ok (some p) →
        (d.step renderer .wait).scheduler.delivered.getLast? = some p ∧
          p.generation = requests steps) := by
  intro renderer steps d
  exact ⟨by decide, by decide,
    (only_latest_is_delivered renderer 10 true ['a'] steps).2.2.2.2 rfl⟩

end Desk

end LabelTemplate
