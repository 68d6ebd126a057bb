import LabelTemplate.CommandLine.Verdict
import LabelTemplate.Proofs.Session.Edits
import LabelTemplate.Proofs.Session.Invariant
import LabelTemplate.Proofs.Success

/-!
# Edits by number

All numbers are looked up before the first edit is made. An edit changes neither the number of a
field nor its name, so looking each number up when it is needed finds the same fields
(`edited_of_stepsOf`). A number that no field has is found before anything is edited, wherever in
the list it stands.
-/

namespace LabelTemplate.CommandLine

open Session Verdict

/--
Edits are made one after the other. Each is about the only field that has its number then, and
it changes one thing of that field.
-/
inductive Edited : Session → List NumberedEdit → Session → Prop
  /-- There is nothing to do. -/
  | none (s : Session) : Edited s [] s
  /-- The first edit, and then the others. -/
  | edit {s s' : Session} {number : Int} {change : FieldId → Step} {edits : List NumberedEdit}
    {f : Field} (hf : f ∈ s.fields) (hnumber : f.orderIndex = number)
    (honly : ∀ g ∈ s.fields, g.orderIndex = number → g = f)
    (hchanges : Changes s (change f.id) (s.after (change f.id)))
    (hlater : Edited (s.after (change f.id)) edits s') : Edited s ((number, change) :: edits) s'

/-- A field has this number. -/
def HasNumber (s : Session) (number : Int) : Prop := ∃ f ∈ s.fields, f.orderIndex = number

/-- A step about a field that changes an attribute of it. -/
def IsEdit (change : FieldId → Step) : Prop :=
  ∀ id, (change id).addressed? = some id ∧ (change id).attribute?.isSome

variable {start s : Session} {edits : List NumberedEdit} {steps : List Step}

theorem isEdit_of_mem_editsOf {r : ExportRequest} {edit : NumberedEdit} (h : edit ∈ editsOf r) :
    IsEdit edit.2 := by
  rw [editsOf, List.mem_append, List.mem_append, List.mem_map, List.mem_map, List.mem_map] at h
  rcases h with (⟨_, _, rfl⟩ | ⟨_, _, rfl⟩) | ⟨_, _, rfl⟩ <;> exact fun _ => ⟨rfl, rfl⟩

theorem isLoad_of_isEdit {change : FieldId → Step} (h : IsEdit change) (id : FieldId) :
    (change id).isLoad = false := by
  have haddressed := (h id).1
  generalize change id = st at haddressed
  cases st with
  | load => exact nomatch haddressed
  | _ => rfl

theorem numbered?_eq_none_iff {number : Int} :
    numbered? s number = none ↔ ¬ HasNumber s number := by
  rw [numbered?, Option.map_eq_none_iff, List.find?_eq_none]
  simp [HasNumber]

/-- **There are steps just if every number is that of a field.** -/
theorem exists_stepsOf_iff :
    (∃ steps, stepsOf s edits = .ok steps) ↔ ∀ edit ∈ edits, HasNumber s edit.1 := by
  induction edits with
  | nil => exact ⟨fun _ _ h => absurd h List.not_mem_nil, fun _ => ⟨[], rfl⟩⟩
  | cons edit edits ih =>
      rw [List.forall_mem_cons, ← ih, stepsOf]
      cases hnumber : numbered? s edit.1 with
      | none =>
          have hmissing := numbered?_eq_none_iff.mp hnumber
          exact ⟨fun ⟨_, h⟩ => (nomatch h), fun h => absurd h.1 hmissing⟩
      | some id =>
          have hfound : HasNumber s edit.1 := by
            by_contra h
            rw [numbered?_eq_none_iff.mpr h] at hnumber
            exact nomatch hnumber
          constructor
          · rintro ⟨steps, hsteps⟩
            obtain ⟨later, hlater, _⟩ := map_eq_ok_iff.mp hsteps
            exact ⟨hfound, later, hlater⟩
          · rintro ⟨_, later, hlater⟩
            exact ⟨_, map_eq_ok_iff.mpr ⟨later, hlater, rfl⟩⟩

/-- No two fields have the same number. -/
theorem eq_of_orderIndex_eq (hstart : Fresh start) (hsince : Since start s) {f g : Field}
    (hf : f ∈ s.fields) (hg : g ∈ s.fields) (h : g.orderIndex = f.orderIndex) : g = f := by
  obtain ⟨i, hi⟩ := List.mem_iff_getElem?.mp hf
  obtain ⟨j, hj⟩ := List.mem_iff_getElem?.mp hg
  rw [hsince.numbered hstart hi, hsince.numbered hstart hj] at h
  obtain rfl := Int.ofNat.inj h
  exact Option.some.inj (hj.symm.trans hi)

/-- An edit of a field that is there is made. -/
theorem changes_of_isEdit (hids : (s.fields.map Field.id).Nodup) {change : FieldId → Step}
    (hchange : IsEdit change) {f : Field} (hf : f ∈ s.fields) :
    Changes s (change f.id) (s.after (change f.id)) := by
  obtain ⟨haddressed, hattribute⟩ := hchange f.id
  rcases take_cases hids (change f.id) with ⟨e, hrefused⟩ | ⟨_, hchanges, _⟩
  · generalize change f.id = st at haddressed hattribute hrefused
    cases hrefused with
    | unknown haddressed' hunknown =>
        obtain rfl := Option.some.inj (haddressed.symm.trans haddressed')
        exact absurd rfl (hunknown f hf)
    | coordinates _ faults => exact nomatch hattribute
    | measures _ => exact nomatch hattribute
  · exact hchanges

/-- **Numbers name the same fields from the first edit to the last.** -/
theorem edited_of_stepsOf (hstart : Fresh start) (hsince : Since start s)
    (hedits : ∀ edit ∈ edits, IsEdit edit.2) (h : stepsOf start edits = .ok steps) :
    Edited s edits (s.afterAll steps) := by
  induction edits generalizing s steps with
  | nil =>
      obtain rfl := Except.ok.inj h
      exact .none s
  | cons edit edits ih =>
      obtain ⟨number, change⟩ := edit
      rw [List.forall_mem_cons] at hedits
      rw [stepsOf] at h
      split at h
      · exact nomatch h
      · rename_i id hid
        obtain ⟨later, hlater, rfl⟩ := map_eq_ok_iff.mp h
        rw [numbered?, Option.map_eq_some_iff] at hid
        obtain ⟨found, hfound, rfl⟩ := hid
        have hmem := List.mem_of_find?_eq_some hfound
        obtain rfl : found.orderIndex = number := by simpa using List.find?_some hfound
        -- the field that had the number at the beginning, as it is now
        rw [← hsince.fields, List.mem_map] at hmem
        obtain ⟨f, hf, rfl⟩ := hmem
        exact .edit hf rfl (fun g hg => eq_of_orderIndex_eq hstart hsince hf hg)
          (changes_of_isEdit (hsince.ids hstart) hedits.1 hf)
          (ih (hsince.after hstart (isLoad_of_isEdit hedits.1 f.id)) hedits.2 hlater)

/-- A course of edits has one outcome. -/
theorem Edited.unique {s₁ s₂ : Session} (h₁ : Edited s edits s₁) (h₂ : Edited s edits s₂) :
    s₁ = s₂ := by
  induction h₁ with
  | none => cases h₂; rfl
  | edit _ _ honly _ _ ih =>
      cases h₂ with
      | edit hf hnumber _ _ hlater =>
          obtain rfl := honly _ hf hnumber
          exact ih hlater

/-- Edits that can be made are about fields that were there at the beginning. -/
theorem Edited.hasNumber {s' : Session} (h : Edited s edits s') (hsince : Since start s)
    (hedits : ∀ edit ∈ edits, IsEdit edit.2) : ∀ edit ∈ edits, HasNumber start edit.1 := by
  induction h with
  | none => exact fun _ h => absurd h List.not_mem_nil
  | @edit s s' number change edits f hf hnumber honly hchanges hlater ih =>
      rw [List.forall_mem_cons] at hedits ⊢
      have hload := isLoad_of_isEdit hedits.1 f.id
      refine ⟨⟨f.asFound, ?_, hnumber⟩, ih (hsince.changes hload hchanges) hedits.2⟩
      rw [← hsince.fields]
      exact List.mem_map_of_mem hf

/-- **What edits come to is what their steps come to.** -/
theorem edited_iff (hstart : Fresh s) (hedits : ∀ edit ∈ edits, IsEdit edit.2) {s' : Session} :
    Edited s edits s' ↔ ∃ steps, stepsOf s edits = .ok steps ∧ s.afterAll steps = s' := by
  constructor
  · intro h
    obtain ⟨steps, hsteps⟩ := exists_stepsOf_iff.mpr (h.hasNumber hstart.since hedits)
    exact ⟨steps, hsteps, (edited_of_stepsOf hstart hstart.since hedits hsteps).unique h⟩
  · rintro ⟨steps, hsteps, rfl⟩
    exact edited_of_stepsOf hstart hstart.since hedits hsteps

end LabelTemplate.CommandLine
