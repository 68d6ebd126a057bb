import LabelTemplate.Proofs.Session.Steps

/-!
# Courses of edits

An edit acts on each field by itself, so a course of edits does too. Everything about
courses of edits can therefore be said about what they do to a single field: edits of
different fields commute, and an edit covers every earlier one of the same attribute.
-/

namespace LabelTemplate

namespace Session

/-! ## What an edit does to a field -/

/-- What a user may change of a field. -/
inductive Attribute where
  /-- The value. -/
  | value
  /-- The position. -/
  | position
  /-- Whether its graphic is embedded. -/
  | embedding
deriving DecidableEq

/-- What a step changes of the field that it is about. -/
def Step.attribute? : Step → Option Attribute
  | .updateValue _ _ => some .value
  | .updatePosition _ (.accepted _) => some .position
  | .setEmbedding _ _ => some .embedding
  | _ => none

/-- What a step makes of the field that it is about; `entered` is how values are entered. -/
def Step.edit (entered : FieldKind → Text → Text) : Step → Field → Field
  | .updateValue _ value, f => f.withValue (entered f.kind value)
  | .updatePosition _ (.accepted position), f => f.withPosition position
  | .setEmbedding _ selected, f => f.withEmbedding selected
  | _, f => f

/-- What a step makes of any field. -/
def Step.act (entered : FieldKind → Text → Text) (st : Step) (f : Field) : Field :=
  if st.addressed? = some f.id then st.edit entered f else f

/-- What a course of steps makes of a field. -/
def actAll (entered : FieldKind → Text → Text) (steps : List Step) (f : Field) : Field :=
  steps.foldl (fun f st => st.act entered f) f

section

variable {entered : FieldKind → Text → Text} {st : Step} {f g : Field}

theorem Step.act_of_eq (h : st.addressed? = some f.id) : st.act entered f = st.edit entered f :=
  if_pos h

theorem Step.act_of_ne (h : st.addressed? ≠ some f.id) : st.act entered f = f := if_neg h

theorem Step.id_act (entered : FieldKind → Text → Text) (st : Step) (f : Field) :
    (st.act entered f).id = f.id := by
  by_cases h : st.addressed? = some f.id
  · rw [act_of_eq h]
    unfold Step.edit
    split <;> rfl
  · rw [act_of_ne h]

/-- A step that changes nothing of the field that it is about changes nothing of any field. -/
theorem Step.act_of_attribute?_eq_none (h : st.attribute? = none) (f : Field) :
    st.act entered f = f := by
  by_cases haddressed : st.addressed? = some f.id
  · rw [act_of_eq haddressed]
    unfold Step.edit
    split
    · exact absurd h (by simp [Step.attribute?])
    · exact absurd h (by simp [Step.attribute?])
    · exact absurd h (by simp [Step.attribute?])
    · rfl
  · rw [act_of_ne haddressed]

theorem actAll_append (entered : FieldKind → Text → Text) (steps later : List Step) (f : Field) :
    actAll entered (steps ++ later) f = actAll entered later (actAll entered steps f) :=
  List.foldl_append

theorem id_actAll (entered : FieldKind → Text → Text) (steps : List Step) (f : Field) :
    (actAll entered steps f).id = f.id := by
  induction steps generalizing f with
  | nil => rfl
  | cons st steps ih => exact (ih _).trans (st.id_act entered f)

end

/-! ## Courses of edits -/

section

variable {s : Session} {st : Step} {id : FieldId}

/-- **A step about a field acts on each field by itself.** -/
theorem after_eq (hids : (s.fields.map Field.id).Nodup) (hst : st.addressed? = some id) :
    s.after st = { s with fields := s.fields.map (st.act s.entered) } := by
  have hidle : (∀ f ∈ s.fields, st.act s.entered f = f) →
      s = { s with fields := s.fields.map (st.act s.entered) } := by
    intro hacts
    have hmap : s.fields.map (st.act s.entered) = s.fields.map fun f => f :=
      List.map_congr_left hacts
    rw [hmap, List.map_id']
  have hedited : ∀ {before behind : List Field} {f f' : Field},
      s.fields = before ++ f :: behind → st.addressed? = some f.id → st.act s.entered f = f' →
      { s with fields := before ++ f' :: behind } =
        { s with fields := s.fields.map (st.act s.entered) } := by
    intro before behind f f' hfields haddressed hact
    rw [hfields] at hids
    rw [hfields, map_eq_of_nodup hids fun g hg =>
      Step.act_of_ne (haddressed ▸ fun heq => hg (Option.some.inj heq).symm), hact]
  rcases take_cases hids st with ⟨e, hrefused⟩ | ⟨_, hchanges, _⟩
  · rw [Session.after, take_of_refused hrefused]
    refine hidle fun f hf => ?_
    cases hrefused with
    | unknown haddressed hunknown =>
        exact Step.act_of_ne (haddressed ▸ fun heq => hunknown f hf (Option.some.inj heq).symm)
    | coordinates _ faults => exact Step.act_of_attribute?_eq_none rfl f
    | measures _ => exact absurd hst (by simp [Step.addressed?])
  · generalize s.after st = s' at hchanges
    cases hchanges with
    | value hfields value => exact hedited hfields rfl (if_pos rfl)
    | position hfields position => exact hedited hfields rfl (if_pos rfl)
    | embedding hfields selected => exact hedited hfields rfl (if_pos rfl)
    | field hf => exact hidle fun f _ => Step.act_of_attribute?_eq_none rfl f
    | load | label | rename | fields | generate | preview | exportFile =>
        exact absurd hst (by simp [Step.addressed?])

/-- **A course of edits acts on each field by itself.** -/
theorem afterAll_eq (hids : (s.fields.map Field.id).Nodup) {steps : List Step}
    (hsteps : ∀ st ∈ steps, st.addressed?.isSome) :
    s.afterAll steps = { s with fields := s.fields.map (actAll s.entered steps) } := by
  induction steps generalizing s with
  | nil =>
      show s = { s with fields := s.fields.map fun f => f }
      rw [List.map_id']
  | cons st steps ih =>
      obtain ⟨id, hst⟩ := Option.isSome_iff_exists.mp (hsteps st List.mem_cons_self)
      have hafter := after_eq hids hst
      have hids' : ((s.after st).fields.map Field.id).Nodup := by
        rw [hafter, List.map_map]
        simpa only [Function.comp_def, Step.id_act] using hids
      have hlater := ih hids' fun st' hst' => hsteps st' (List.mem_cons_of_mem st hst')
      rw [hafter] at hlater
      rw [Session.afterAll, List.foldl_cons, ← Session.afterAll, hafter, hlater, List.map_map]
      rfl

/-- What counts of a course of edits is what it does to the fields that are there. -/
theorem afterAll_congr (hids : (s.fields.map Field.id).Nodup) {steps steps' : List Step}
    (hsteps : ∀ st ∈ steps, st.addressed?.isSome) (hsteps' : ∀ st ∈ steps', st.addressed?.isSome)
    (h : ∀ f ∈ s.fields, actAll s.entered steps f = actAll s.entered steps' f) :
    s.afterAll steps = s.afterAll steps' := by
  rw [afterAll_eq hids hsteps, afterAll_eq hids hsteps', List.map_congr_left h]

end

/-! ## What covers what -/

/-- Does a step put in place what an earlier one put in the same place? -/
def Step.Covers (later st : Step) : Prop :=
  later.addressed? = st.addressed? ∧ later.attribute? = st.attribute? ∧ later.attribute?.isSome

/-- Does a step move the field of the given name? -/
def Step.moves (id : FieldId) (st : Step) : Bool :=
  st.addressed? == some id && st.attribute? == some .position

/-- The field without one of its attributes. -/
def Attribute.erase (f : Field) : Attribute → Field
  | .value => { f with currentValue := [] }
  | .position => { f with currentPosition := none }
  | .embedding => { f with embedded := false }

section

variable {entered : FieldKind → Text → Text} {st : Step} {f g : Field} {a : Attribute}

theorem id_erase (f : Field) (a : Attribute) : (a.erase f).id = f.id := by
  cases a <;> rfl

theorem Step.of_attribute?_eq_some (h : st.attribute? = some a) :
    (∃ id value, st = .updateValue id value ∧ a = .value) ∨
      (∃ id position, st = .updatePosition id (.accepted position) ∧ a = .position) ∨
      ∃ id selected, st = .setEmbedding id selected ∧ a = .embedding := by
  unfold Step.attribute? at h
  split at h
  · exact .inl ⟨_, _, rfl, (Option.some.inj h).symm⟩
  · exact .inr (.inl ⟨_, _, rfl, (Option.some.inj h).symm⟩)
  · exact .inr (.inr ⟨_, _, rfl, (Option.some.inj h).symm⟩)
  · exact absurd h (by simp)

/-- A step leaves all attributes alone but the one that it changes. -/
theorem erase_act (hst : st.attribute? = some a) (f : Field) :
    a.erase (st.act entered f) = a.erase f := by
  by_cases haddressed : st.addressed? = some f.id
  · rw [Step.act_of_eq haddressed]
    rcases Step.of_attribute?_eq_some hst with
      ⟨_, _, rfl, rfl⟩ | ⟨_, _, rfl, rfl⟩ | ⟨_, _, rfl, rfl⟩ <;> rfl
  · rw [Step.act_of_ne haddressed]

/-- What a step makes of the other attributes does not depend on the erased one. -/
theorem erase_act_congr (st : Step) (h : a.erase f = a.erase g) :
    a.erase (st.act entered f) = a.erase (st.act entered g) := by
  have hblind : ∀ f, a.erase (st.act entered (a.erase f)) = a.erase (st.act entered f) := by
    intro f
    have hid := id_erase f a
    by_cases haddressed : st.addressed? = some f.id
    · rw [Step.act_of_eq haddressed, Step.act_of_eq (hid.symm ▸ haddressed)]
      unfold Step.edit
      split <;> cases a <;> rfl
    · rw [Step.act_of_ne haddressed, Step.act_of_ne (hid.symm ▸ haddressed)]
      cases a <;> rfl
  rw [← hblind f, h, hblind g]

theorem erase_actAll_congr (steps : List Step) (h : a.erase f = a.erase g) :
    a.erase (actAll entered steps f) = a.erase (actAll entered steps g) := by
  induction steps generalizing f g with
  | nil => exact h
  | cons st steps ih => exact ih (erase_act_congr st h)

/-- What a step makes of its own attribute does not depend on what that was. -/
theorem act_congr (hst : st.attribute? = some a) (haddressed : st.addressed? = some f.id)
    (h : a.erase f = a.erase g) : st.act entered f = st.act entered g := by
  have hblind : ∀ f, st.addressed? = some f.id → st.act entered (a.erase f) = st.act entered f := by
    intro f haddressed
    rw [Step.act_of_eq haddressed, Step.act_of_eq ((id_erase f a).symm ▸ haddressed)]
    rcases Step.of_attribute?_eq_some hst with
      ⟨_, _, rfl, rfl⟩ | ⟨_, _, rfl, rfl⟩ | ⟨_, _, rfl, rfl⟩ <;> rfl
  have hid : f.id = g.id := by rw [← id_erase f a, h, id_erase]
  rw [← hblind f haddressed, h, hblind g (hid ▸ haddressed)]

/-- **Only the last edit of an attribute counts**, whatever was edited in between. -/
theorem actAll_of_covers {later : Step} (h : later.Covers st) (before between behind : List Step)
    (f : Field) :
    actAll entered (before ++ st :: between ++ later :: behind) f =
      actAll entered (before ++ between ++ later :: behind) f := by
  obtain ⟨haddressed, hattribute, hsome⟩ := h
  obtain ⟨a, ha⟩ := Option.isSome_iff_exists.mp hsome
  have hkey : ∀ g, later.act entered (actAll entered between (st.act entered g)) =
      later.act entered (actAll entered between g) := by
    intro g
    by_cases hg : later.addressed? = some g.id
    · refine act_congr ha ?_ (erase_actAll_congr between (erase_act (hattribute ▸ ha) g))
      rw [id_actAll, Step.id_act]
      exact hg
    · rw [Step.act_of_ne (f := g) (haddressed ▸ hg)]
  rw [actAll_append, actAll_append, actAll_append, actAll_append]
  exact congrArg (actAll entered behind) (hkey (actAll entered before f))

/-- **Edits of different fields commute.** -/
theorem actAll_swap {st' : Step} (h : st.addressed? ≠ st'.addressed?) (before behind : List Step)
    (f : Field) :
    actAll entered (before ++ st' :: st :: behind) f =
      actAll entered (before ++ st :: st' :: behind) f := by
  have hkey : ∀ g, st.act entered (st'.act entered g) = st'.act entered (st.act entered g) := by
    intro g
    by_cases hst : st.addressed? = some g.id
    · have hst' : st'.addressed? ≠ some g.id := fun heq => h (hst.trans heq.symm)
      rw [Step.act_of_ne hst', Step.act_of_ne (f := st.act entered g) (by rwa [Step.id_act])]
    · rw [Step.act_of_ne hst, Step.act_of_ne (f := st'.act entered g) (by rwa [Step.id_act])]
  rw [actAll_append, actAll_append]
  exact congrArg (actAll entered behind) (hkey (actAll entered before f))

/-! ## Without the moves of a field -/

theorem Step.attribute?_of_moves {id : FieldId} (h : st.moves id = true) :
    st.addressed? = some id ∧ st.attribute? = some .position := by
  simpa [Step.moves] using h

/-- Without its moves, a field comes to the same but for its position. -/
theorem erase_actAll_filter (id : FieldId) (steps : List Step) (f : Field) :
    Attribute.position.erase (actAll entered (steps.filter fun st => !st.moves id) f) =
      Attribute.position.erase (actAll entered steps f) := by
  induction steps generalizing f with
  | nil => rfl
  | cons st steps ih =>
      cases hmoves : st.moves id with
      | false =>
          rw [List.filter_cons_of_pos (by simp [hmoves])]
          exact ih (st.act entered f)
      | true =>
          rw [List.filter_cons_of_neg (by simp [hmoves]), ih f]
          exact erase_actAll_congr steps (erase_act (Step.attribute?_of_moves hmoves).2 f).symm

/-- The moves of one field do nothing to the others. -/
theorem actAll_filter_of_ne {id : FieldId} (steps : List Step) (h : f.id ≠ id) :
    actAll entered (steps.filter fun st => !st.moves id) f = actAll entered steps f := by
  induction steps generalizing f with
  | nil => rfl
  | cons st steps ih =>
      cases hmoves : st.moves id with
      | false =>
          rw [List.filter_cons_of_pos (by simp [hmoves])]
          exact ih (by rwa [Step.id_act])
      | true =>
          have hother : st.addressed? ≠ some f.id := fun heq =>
            h (Option.some.inj (heq.symm.trans (Step.attribute?_of_moves hmoves).1))
          rw [List.filter_cons_of_neg (by simp [hmoves]), ih h]
          show _ = actAll entered steps (st.act entered f)
          rw [Step.act_of_ne hother]

theorem currentPosition_actAll {steps : List Step} (h : ∀ st ∈ steps, st.moves f.id = false) :
    (actAll entered steps f).currentPosition = f.currentPosition := by
  induction steps generalizing f with
  | nil => rfl
  | cons st steps ih =>
      have hkept : (st.act entered f).currentPosition = f.currentPosition := by
        by_cases haddressed : st.addressed? = some f.id
        · have hmoves := h st List.mem_cons_self
          rw [Step.act_of_eq haddressed]
          unfold Step.edit
          split
          · rfl
          · exact absurd hmoves (by simp [Step.moves, haddressed, Step.attribute?])
          · rfl
          · rfl
        · rw [Step.act_of_ne haddressed]
      refine (ih fun st' hst' => ?_).trans hkept
      rw [Step.id_act]
      exact h st' (List.mem_cons_of_mem st hst')

end

end Session

end LabelTemplate
