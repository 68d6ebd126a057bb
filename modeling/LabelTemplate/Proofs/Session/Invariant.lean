import LabelTemplate.Proofs.Session.Loading
import LabelTemplate.Proofs.Session.Steps

/-!
# What holds as long as a template is loaded

Writing fields back relies on what the template says about them: their names, kinds,
numbers, positions and values there. Nothing that can be done to a session but loading
another template touches any of it.
-/

namespace LabelTemplate.Session

/-- Does a step load a template? -/
def Step.isLoad : Step → Bool
  | .load _ _ => true
  | _ => false

/-- Nothing was edited yet, and the fields can be told apart. -/
structure Fresh (s : Session) : Prop where
  /-- No two fields have the same name. -/
  ids : (s.fields.map Field.id).Nodup
  /-- Each field has the number of its place. -/
  numbered : ∀ (i : Nat) (f : Field), s.fields[i]? = some f → f.orderIndex = i
  /-- All fields are as they were found. -/
  unedited : s.fields.map Field.asFound = s.fields

/-- Nothing but what a user may edit is different from what it was at the beginning. -/
structure Since (start s : Session) : Prop where
  /-- The template is the same. -/
  document : s.document = start.document
  /-- The graphics that it stores are the same. -/
  definitions : s.definitions = start.definitions
  /-- The fields are the same, but for what can be edited. -/
  fields : s.fields.map Field.asFound = start.fields
  /-- Only images are chosen for embedding. -/
  images : ∀ f ∈ s.fields, f.embedded = true → f.kind = .image

/-! ## Beginnings -/

theorem fresh_new (settings : Settings) : Fresh { settings := settings } where
  ids := List.nodup_nil
  numbered := fun i f h => absurd h (by simp)
  unedited := rfl

theorem fresh_load (s : Session) (raw fileName : Text) : Fresh (s.load raw fileName) where
  ids := s.nodup_ids_load raw fileName
  numbered := fun _ _ h => Field.orderIndex_of_getElem?_order h
  unedited := s.map_asFound_load raw fileName

theorem Fresh.since {s : Session} (h : Fresh s) : Since s s where
  document := rfl
  definitions := rfl
  fields := h.unedited
  images := fun f hf hembedded => by
    rw [← h.unedited] at hf
    obtain ⟨g, _, rfl⟩ := List.mem_map.mp hf
    exact absurd hembedded (by simp [Field.asFound])

/-! ## Steps -/

section

variable {start s s' : Session} {st : Step}

theorem Since.ids (h : Since start s) (hstart : Fresh start) : (s.fields.map Field.id).Nodup := by
  have hids := hstart.ids
  rw [← h.fields, List.map_map] at hids
  exact hids

theorem Since.numbered (h : Since start s) (hstart : Fresh start) {i : Nat} {f : Field}
    (hf : s.fields[i]? = some f) : f.orderIndex = i := by
  have hfound : start.fields[i]? = some f.asFound := by
    rw [← h.fields, List.getElem?_map, hf]
    rfl
  exact hstart.numbered i f.asFound hfound

/-- A field that is edited is found by the same as before. -/
theorem Since.edited {before behind : List Field} {f f' : Field} (h : Since start s)
    (hfields : s.fields = before ++ f :: behind) (hfound : f'.asFound = f.asFound)
    (himage : f'.embedded = true → f.embedded = true ∨ f.kind = .image) :
    Since start { s with fields := before ++ f' :: behind } where
  document := h.document
  definitions := h.definitions
  fields := by
    rw [← h.fields, hfields]
    simp [hfound]
  images := fun g hg hembedded => by
    have hold : ∀ g ∈ before ++ f :: behind, g.embedded = true → g.kind = .image := by
      rw [← hfields]
      exact h.images
    rcases List.mem_append.mp hg with hg | hg
    · exact hold g (List.mem_append_left _ hg) hembedded
    · rcases List.mem_cons.mp hg with rfl | hg
      · have hkind : g.asFound.kind = f.asFound.kind := by rw [hfound]
        show g.asFound.kind = .image
        rw [hkind]
        rcases himage hembedded with hbefore | himage
        · exact hold f (List.mem_append_right _ List.mem_cons_self) hbefore
        · exact himage
      · exact hold g (List.mem_append_right _ (List.mem_cons_of_mem f hg)) hembedded

theorem Since.changes (h : Since start s) (hst : st.isLoad = false) (hchanges : Changes s st s') :
    Since start s' := by
  cases hchanges with
  | value hfields value => exact h.edited hfields rfl .inl
  | position hfields position => exact h.edited hfields rfl .inl
  | embedding hfields selected =>
      refine h.edited hfields rfl fun hembedded => .inr ?_
      simp only [Bool.and_eq_true, beq_iff_eq] at hembedded
      exact hembedded.2
  | label haccepted => exact ⟨h.document, h.definitions, h.fields, h.images⟩
  | rename fileName => exact ⟨h.document, h.definitions, h.fields, h.images⟩
  | load raw fileName => exact absurd hst (by simp [Step.isLoad])
  | field | fields | generate | preview | exportFile => exact h

/-- **Every step but loading keeps what does not belong to the user.** -/
theorem Since.after (h : Since start s) (hstart : Fresh start) (hst : st.isLoad = false) :
    Since start (s.after st) := by
  rcases take_cases (h.ids hstart) st with ⟨e, hrefused⟩ | ⟨_, hchanges, _⟩
  · rw [Session.after, take_of_refused hrefused]
    exact h
  · exact h.changes hst hchanges

theorem Since.afterAll (h : Since start s) (hstart : Fresh start) {steps : List Step}
    (hsteps : ∀ st ∈ steps, st.isLoad = false) : Since start (s.afterAll steps) := by
  induction steps generalizing s with
  | nil => exact h
  | cons st steps ih =>
      exact ih (h.after hstart (hsteps st List.mem_cons_self)) fun st' hst' =>
        hsteps st' (List.mem_cons_of_mem st hst')

end

/-- After any course of steps there is a beginning, which is the last template that was loaded. -/
theorem exists_since {s : Session} (h : ∃ start, Fresh start ∧ Since start s) (steps : List Step) :
    ∃ start, Fresh start ∧ Since start (s.afterAll steps) := by
  induction steps generalizing s with
  | nil => exact h
  | cons st steps ih =>
      refine ih ?_
      obtain ⟨start, hstart, hsince⟩ := h
      cases hst : st.isLoad with
      | false => exact ⟨start, hstart, hsince.after hstart hst⟩
      | true =>
          cases st with
          | load raw fileName =>
              exact ⟨_, s.fresh_load raw fileName, (s.fresh_load raw fileName).since⟩
          | _ => exact absurd hst (by simp [Step.isLoad])

/--
**What the template says stays as it is, and a refused step changes nothing.**

Whatever was done to a session: before a template is loaded it is empty, and since one
was loaded the document and the graphics are those of its text, and the fields are the
same, in the same order, but for the values, positions and choices of the user. Names
are different, each field has the number of its place, and only images are chosen for
embedding. The next step fails just if it is refused, and the session is then left as it
was; otherwise it changes one attribute of one field, or one part of the whole.
-/
theorem template_is_kept (settings : Settings) (steps : List Step) :
    let start : Session := { settings := settings }
    let s := start.afterAll steps
    ((∀ st ∈ steps, st.isLoad = false) →
        s.fields = [] ∧ s.document = [] ∧ s.definitions = {}) ∧
      (∀ before raw fileName behind, steps = before ++ .load raw fileName :: behind →
        (∀ st ∈ behind, st.isLoad = false) →
        s.document = Normalization.normalize raw ∧ s.definitions = Definitions.capture raw ∧
          s.fields.map Field.asFound = ((start.afterAll before).load raw fileName).fields) ∧
      (s.fields.map Field.id).Nodup ∧
      (∀ (i : Nat) (f : Field), s.fields[i]? = some f → f.orderIndex = i) ∧
      (∀ f ∈ s.fields, f.embedded = true → f.kind = .image) ∧
      ∀ st, (∀ e, (s.take st).1 = .error e ↔ Refused s st e) ∧
        (∀ e, (s.take st).1 = .error e → s.after st = s) ∧
        ∀ reply, (s.take st).1 = .ok reply → Changes s st (s.after st) := by
  intro start s
  have hnew := fresh_new settings
  obtain ⟨base, hbase, hsince⟩ := exists_since ⟨start, hnew, hnew.since⟩ steps
  have hids := hsince.ids hbase
  have hrefused : ∀ st e, (s.take st).1 = .error e → Refused s st e := by
    intro st e he
    rcases take_cases hids st with ⟨e', he'⟩ | ⟨reply, _, hreply⟩
    · rw [take_of_refused he'] at he
      exact Except.error.inj he ▸ he'
    · rw [hreply] at he
      exact absurd he (by simp)
  refine ⟨fun hsteps => ?_, ?_, hids, fun _ _ => hsince.numbered hbase, hsince.images,
    fun st => ⟨fun e => ⟨hrefused st e, fun he => ?_⟩, fun e he => ?_, fun reply hreply => ?_⟩⟩
  · have hempty := hnew.since.afterAll hnew hsteps
    exact ⟨List.map_eq_nil_iff.mp hempty.fields, hempty.document, hempty.definitions⟩
  · rintro before raw fileName behind rfl hbehind
    have hload := fresh_load (start.afterAll before) raw fileName
    have hlater := hload.since.afterAll hload hbehind
    have hs : s = ((start.afterAll before).load raw fileName).afterAll behind := by
      show start.afterAll (before ++ _) = _
      rw [Session.afterAll, List.foldl_append]
      rfl
    rw [hs]
    exact ⟨hlater.document, hlater.definitions, hlater.fields⟩
  · rw [take_of_refused he]
  · rw [Session.after, take_of_refused (hrefused st e he)]
  · rcases take_cases hids st with ⟨e, he⟩ | ⟨_, hchanges, _⟩
    · rw [take_of_refused he] at hreply
      exact absurd hreply (by simp)
    · exact hchanges

end LabelTemplate.Session
