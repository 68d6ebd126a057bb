import LabelTemplate.Proofs.Preview.Blame
import LabelTemplate.Proofs.Preview.Debouncing
import Mathlib.Data.List.Induction

/-!
# The fate of every request

When a request is made it is alone: with a service that stops when it is cancelled, all
that was asked for before has come to its end or was taken back. So the fate of each
request of a run can be read off the steps that follow it.
-/

namespace LabelTemplate

variable {π σ : Type}

theorem Task.call?_eq_some_iff {t : Task π} {document : π → Text} {c : Call} :
    t.call? document = some c ↔ document t.provider ≠ [] ∧
      c = { generation := t.generation, document := document t.provider, label := t.label } := by
  unfold Task.call?
  cases document t.provider with
  | nil => simp
  | cons a rest => simp [eq_comm]

namespace Scheduler

theorem previewOf_eq_ok_iff {generation : Nat} {drawn : Drawn} {p : Preview} :
    previewOf generation drawn = .ok p ↔
      (∃ image, drawn = .picture image ∧ p = { generation := generation, image := some image }) ∨
        ∃ reason, drawn = .refused reason ∧
          p = { generation := generation, error := some reason } := by
  cases drawn <;> simp [previewOf, eq_comm]

end Scheduler

namespace Desk

/-! ## Requests and their numbers -/

/-- Every number that was given is that of a request. -/
theorem Request.exists_of_le {steps : List (Step σ)} {g : Nat} (hpositive : 0 < g)
    (hle : g ≤ requests steps) : ∃ r : Request σ, r.In steps ∧ r.number = g := by
  induction steps using List.reverseRecOn with
  | nil => exact absurd hle (by simp [requests]; omega)
  | append_singleton steps st ih =>
      by_cases hbefore : g ≤ requests steps
      · obtain ⟨r, hr, hnumber⟩ := ih hbefore
        refine ⟨{ r with later := r.later ++ [st] }, ?_, hnumber⟩
        rw [hr]
        simp [In]
      · -- the number was given in the last step
        have hlast := requests_append steps [st]
        have hstep : requests [st] = 0 ∨ ∃ provider label, st = .trigger provider label := by
          cases st <;> simp [requests]
        rcases hstep with hnone | ⟨provider, label, rfl⟩
        · omega
        · refine ⟨⟨steps, provider, label, []⟩, rfl, ?_⟩
          have hone : requests [Step.trigger provider label] = 1 := rfl
          show requests steps + 1 = g
          omega

/-! ## One request of a run -/

section

variable {renderer : Renderer} {delay : Nat} {content : σ}

theorem Request.after_eq {r : Request σ} {steps : List (Step σ)} (hr : r.In steps)
    (start : Desk σ) :
    start.after renderer steps = (r.made renderer start).after renderer r.later := by
  rw [hr, after_append]
  rfl

/-- With a service that stops when it is cancelled, a request is alone when it is made. -/
theorem Request.alone (hobedient : renderer.Obedient) (r : Request σ) :
    (r.made renderer (.new delay true content)).scheduler.Alone
      { generation := r.number, label := r.label, provider := r.provider
        phase := .waiting (r.due renderer (.new delay true content)) } := by
  have hlatest : ((Desk.new delay true content).after renderer r.before).scheduler.LatestOnly :=
    after_keeps (fun _ provider label h => h.trigger provider label) (fun _ h => h.cancel)
      (fun _ document limit h => h.advance hobedient document limit)
      (by simp [new, Scheduler.LatestOnly]) r.before
  have hnumber : ((Desk.new delay true content).after renderer r.before).scheduler.generation + 1 =
      r.number := by
    rw [generation_after]
    exact congrArg Nat.succ (Nat.zero_add _)
  have hdelay := (settled_after renderer (Desk.new delay true content) r.before).1
  have halone := hlatest.alone_trigger r.provider r.label
  rw [hnumber, hdelay] at halone
  exact halone

/-- Nothing came of a request before it was made. -/
theorem Request.unanswered (renderer : Renderer) (delay : Nat) (content : σ) (r : Request σ) :
    (∀ call ∈ (r.made renderer (.new delay true content)).scheduler.calls,
        call.generation ≠ r.number) ∧
      ∀ p ∈ (r.made renderer (.new delay true content)).scheduler.delivered,
        p.generation ≠ r.number := by
  have hnumber : ((Desk.new delay true content).after renderer r.before).scheduler.generation =
      requests r.before := by
    rw [generation_after]
    exact Nat.zero_add _
  refine ⟨fun call hcall => ?_, fun p hp => ?_⟩
  · have hle := ((callsRise_after renderer delay true content r.before).bounded call hcall).2
    rw [hnumber] at hle
    exact Nat.ne_of_lt (Nat.lt_succ_of_le hle)
  · have hle := ((newest_after renderer delay true content r.before).delivered_bounded p hp).2
    rw [hnumber] at hle
    rw [number]
    omega

theorem Request.mem_calls_iff (hobedient : renderer.Obedient) (hdelay : 0 < delay)
    {r : Request σ} {steps : List (Step σ)} (hr : r.In steps) (call : Call) :
    call ∈ ((Desk.new delay true content).after renderer steps).scheduler.calls ∧
        call.generation = r.number ↔
      r.Calls renderer (.new delay true content) call := by
  have hnow : (r.made renderer (.new delay true content)).scheduler.now <
      r.due renderer (.new delay true content) := Nat.lt_add_of_pos_right hdelay
  have hlistening : (r.made renderer (.new delay true content)).scheduler.listening = true :=
    (settled_after renderer (.new delay true content) r.before).2
  have hfollowed := fun hnumber : call.generation = r.number =>
    mem_calls_of_waiting hobedient hlistening (r.alone hobedient) rfl hnow r.later hnumber
  rw [Request.after_eq hr]
  constructor
  · rintro ⟨hmem, hnumber⟩
    rcases (hfollowed hnumber).mp hmem with hold | ⟨v, hreaches, hcall⟩
    · exact absurd hnumber ((r.unanswered renderer delay content).1 call hold)
    · exact ⟨v, hreaches, Task.call?_eq_some_iff.mp hcall⟩
  · rintro ⟨v, hreaches, hdocument, rfl⟩
    refine ⟨(hfollowed rfl).mpr (.inr ⟨v, hreaches, ?_⟩), rfl⟩
    exact Task.call?_eq_some_iff.mpr ⟨hdocument, rfl⟩

theorem Request.mem_delivered_iff (hobedient : renderer.Obedient) (hdelay : 0 < delay)
    {r : Request σ} {steps : List (Step σ)} (hr : r.In steps) (p : Preview) :
    p ∈ ((Desk.new delay true content).after renderer steps).scheduler.delivered ∧
        p.generation = r.number ↔
      r.Delivers renderer (.new delay true content) p := by
  have hnow : (r.made renderer (.new delay true content)).scheduler.now <
      r.due renderer (.new delay true content) := Nat.lt_add_of_pos_right hdelay
  have hlistening : (r.made renderer (.new delay true content)).scheduler.listening = true :=
    (settled_after renderer (.new delay true content) r.before).2
  have hfollowed := fun hnumber : p.generation = r.number =>
    mem_delivered_of_waiting hobedient hlistening (r.alone hobedient) rfl hnow r.later hnumber
  rw [Request.after_eq hr]
  constructor
  · rintro ⟨hmem, hnumber⟩
    rcases (hfollowed hnumber).mp hmem with
      hold | ⟨v, call, latency, drawn, hreaches, hcall, hends, ⟨v', hreaches'⟩, hpreview⟩
    · exact absurd hnumber ((r.unanswered renderer delay content).2 p hold)
    · exact ⟨call, latency, drawn, v', ⟨v, hreaches, Task.call?_eq_some_iff.mp hcall⟩, hends,
        hreaches', Scheduler.previewOf_eq_ok_iff.mp hpreview⟩
  · rintro ⟨call, latency, drawn, v', ⟨v, hreaches, hcall⟩, hends, hreaches', hpreview⟩
    have hpreview' := Scheduler.previewOf_eq_ok_iff.mpr hpreview
    have hnumber := Scheduler.previewOf_generation hpreview'
    exact ⟨(hfollowed hnumber).mpr (.inr ⟨v, call, latency, drawn, hreaches,
      Task.call?_eq_some_iff.mpr hcall, hends, ⟨v', hreaches'⟩, hpreview'⟩), hnumber⟩

end

/--
**Debouncing is exact.**

With a service that stops when it is cancelled, a request calls the service just if the
clock reaches the end of its waiting time before anything is asked for or taken back and
there then is a document; the call gets the document of that time and the measures of
the label of the time of the request. What the call comes to is delivered just if the
clock reaches the end of the call undisturbed as well: a picture as a picture, a reason
as a reason. Calls and deliveries come in the order of the requests, one for each at
most, and nothing goes wrong in a way that nobody takes care of unless the service does.
-/
theorem debouncing_is_exact (renderer : Renderer) (hobedient : renderer.Obedient) (delay : Nat)
    (hdelay : 0 < delay) (content : σ) (steps : List (Step σ)) :
    let start := Desk.new delay true content
    let s := (start.after renderer steps).scheduler
    (∀ r : Request σ, r.In steps →
        (∀ call, call ∈ s.calls ∧ call.generation = r.number ↔ r.Calls renderer start call) ∧
          ∀ p, p ∈ s.delivered ∧ p.generation = r.number ↔ r.Delivers renderer start p) ∧
      (∀ call ∈ s.calls, ∃ r : Request σ, r.In steps ∧ call.generation = r.number) ∧
      (∀ p ∈ s.delivered, ∃ r : Request σ, r.In steps ∧ p.generation = r.number) ∧
      (s.calls.map Call.generation).Pairwise (· < ·) ∧
      (s.delivered.map Preview.generation).Pairwise (· < ·) ∧
      ∀ reason, s.outcome = .error reason →
        ∃ call ∈ s.calls, renderer.Says call (.failed reason) := by
  intro start s
  have hgeneration : s.generation = requests steps := by
    rw [generation_after]
    exact Nat.zero_add _
  have hcalls := callsRise_after renderer delay true content steps
  have hnewest := newest_after renderer delay true content steps
  have hblames : s.Blames renderer :=
    after_keeps (fun _ provider label h => h.trigger provider label) (fun _ h => h.cancel)
      (fun _ document limit h => h.advance document limit)
      ⟨by simp [start, new], by simp [start, new]⟩ steps
  refine ⟨fun r hr => ⟨Request.mem_calls_iff hobedient hdelay hr,
    Request.mem_delivered_iff hobedient hdelay hr⟩, fun call hcall => ?_, fun p hp => ?_,
    hcalls.rising, hnewest.delivered_rising, hblames.outcome⟩
  · obtain ⟨hpositive, hle⟩ := hcalls.bounded call hcall
    obtain ⟨r, hr, hnumber⟩ := Request.exists_of_le hpositive (hgeneration ▸ hle)
    exact ⟨r, hr, hnumber.symm⟩
  · obtain ⟨hpositive, hle⟩ := hnewest.delivered_bounded p hp
    have hle' : p.generation ≤ (s.generation : Int) := hle
    rw [hgeneration] at hle'
    have hlow : 0 < p.generation.toNat := by omega
    have hhigh : p.generation.toNat ≤ requests steps := by omega
    obtain ⟨r, hr, hnumber⟩ := Request.exists_of_le hlow hhigh
    exact ⟨r, hr, by omega⟩

/--
A request right after another calls with the document of its own time, after a change
that was made while it waited; one that is taken back while the service draws is called
for all the same, and not answered.
-/
theorem debouncing_is_exact_of_burst :
    let renderer : Renderer :=
      { prospect := fun _ cancellations =>
          if cancellations.isEmpty then .ends 50 (.picture [1]) else .stops }
    let steps : List (Step Text) :=
      [.trigger id {}, .sleep 5, .trigger id {}, .edit (· ++ ['b']), .sleep 100, .trigger id {},
        .sleep 20, .cancel, .sleep 100]
    let s := ((Desk.new 10 true ['a']).after renderer steps).scheduler
    renderer.Obedient ∧ 0 < 10 ∧
      s.calls = [{ generation := 2, document := ['a', 'b'], label := {} },
        { generation := 3, document := ['a', 'b'], label := {} }] ∧
      s.delivered = [{ generation := 2, image := some [1] }] ∧
      (∀ r : Request Text, r.In steps →
        ∀ p, p ∈ s.delivered ∧ p.generation = r.number ↔
          r.Delivers renderer (Desk.new 10 true ['a']) p) := by
  intro renderer steps s
  have hobedient : renderer.Obedient := by
    intro call cancellations hcancelled
    simp [renderer, hcancelled]
  exact ⟨hobedient, by decide, by decide, by decide, fun r hr =>
    ((debouncing_is_exact renderer hobedient 10 (by decide) ['a'] steps).1 r hr).2⟩

end Desk

end LabelTemplate
