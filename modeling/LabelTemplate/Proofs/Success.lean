import LabelTemplate.Value.Check
import Mathlib.Data.List.Forall2

/-!
# Success

What can fail succeeds just if each of its parts does. These are the forms in which that is used:
from the success of a whole, the parts with their results.
-/

namespace LabelTemplate

variable {ε ε' α β : Type} {x : Except ε α}

theorem bind_eq_ok_iff {f : α → Except ε β} {b : β} :
    x >>= f = .ok b ↔ ∃ a, x = .ok a ∧ f a = .ok b := by
  cases x with
  | error e => exact ⟨(nomatch ·), fun ⟨_, ha, _⟩ => nomatch ha⟩
  | ok a =>
      constructor
      · exact fun h => ⟨a, rfl, h⟩
      · rintro ⟨a', ha, h⟩
        obtain rfl := Except.ok.inj ha
        exact h

theorem mapError_eq_ok_iff {f : ε → ε'} {a : α} :
    x.mapError f = .ok a ↔ x = .ok a := by
  cases x with
  | error e => exact ⟨(nomatch ·), (nomatch ·)⟩
  | ok b => exact ⟨fun h => congrArg _ (Except.ok.inj h), fun h => congrArg _ (Except.ok.inj h)⟩

theorem map_eq_ok_iff {f : α → β} {b : β} :
    x.map f = .ok b ↔ ∃ a, x = .ok a ∧ f a = b := by
  cases x with
  | error e => exact ⟨(nomatch ·), fun ⟨_, ha, _⟩ => nomatch ha⟩
  | ok a =>
      constructor
      · exact fun h => ⟨a, rfl, Except.ok.inj h⟩
      · rintro ⟨a', ha, h⟩
        obtain rfl := Except.ok.inj ha
        exact congrArg _ h

theorem mapM_eq_ok_iff {f : α → Except ε β} {xs : List α} {ys : List β} :
    xs.mapM f = .ok ys ↔ List.Forall₂ (fun a b => f a = .ok b) xs ys := by
  induction xs generalizing ys with
  | nil =>
      rw [List.mapM_nil, List.forall₂_nil_left_iff]
      exact ⟨fun h => (Except.ok.inj h).symm, fun h => congrArg _ h.symm⟩
  | cons x xs ih =>
      rw [List.mapM_cons, bind_eq_ok_iff, List.forall₂_cons_left_iff]
      refine exists_congr fun y => ?_
      rw [bind_eq_ok_iff]
      constructor
      · rintro ⟨hy, rest, hrest, h⟩
        exact ⟨rest, hy, ih.mp hrest, (Except.ok.inj h).symm⟩
      · rintro ⟨rest, hy, hrest, rfl⟩
        exact ⟨hy, rest, ih.mpr hrest, rfl⟩

namespace Checked

variable {x : Checked α}

theorem map_eq_accepted_iff {f : α → β} {b : β} :
    f <$> x = .accepted b ↔ ∃ a, x = .accepted a ∧ f a = b := by
  cases x with
  | rejected faults => exact ⟨(nomatch ·), fun ⟨_, ha, _⟩ => nomatch ha⟩
  | accepted a =>
      constructor
      · exact fun h => ⟨a, rfl, Checked.accepted.inj h⟩
      · rintro ⟨a', ha, rfl⟩
        obtain rfl := Checked.accepted.inj ha
        rfl

theorem seq_eq_accepted_iff {f : Checked (α → β)} {b : β} :
    f <*> x = .accepted b ↔ ∃ g a, f = .accepted g ∧ x = .accepted a ∧ g a = b := by
  cases f with
  | rejected faults =>
      refine ⟨fun h => ?_, fun ⟨_, _, hg, _⟩ => nomatch hg⟩
      cases x with
      | accepted a => exact nomatch h
      | rejected more => exact nomatch h
  | accepted g =>
      cases x with
      | rejected faults => exact ⟨(nomatch ·), fun ⟨_, _, _, ha, _⟩ => nomatch ha⟩
      | accepted a =>
          constructor
          · exact fun h => ⟨g, a, rfl, rfl, Checked.accepted.inj h⟩
          · rintro ⟨g', a', hg, ha, rfl⟩
            obtain rfl := Checked.accepted.inj hg
            obtain rfl := Checked.accepted.inj ha
            rfl

@[simp] theorem within_eq_accepted_iff {key : String} {a : α} :
    x.within key = .accepted a ↔ x = .accepted a := by
  cases x with
  | accepted b => exact Iff.rfl
  | rejected faults => exact ⟨(nomatch ·), (nomatch ·)⟩

@[simp] theorem butFor_nil : x.butFor [] = x := by
  cases x with
  | accepted a => rfl
  | rejected faults => exact congrArg _ (List.append_nil faults)

theorem toExcept_eq_ok_iff {a : α} : x.toExcept = .ok a ↔ x = .accepted a := by
  cases x with
  | accepted b => exact ⟨fun h => congrArg _ (Except.ok.inj h), fun h => congrArg _ (accepted.inj h)⟩
  | rejected faults => exact ⟨(nomatch ·), (nomatch ·)⟩

end Checked

end LabelTemplate
