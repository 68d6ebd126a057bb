import LabelTemplate.Session.Step
import Mathlib.Data.List.Nodup

/-!
# What one step of a session can do

A step is refused, or it changes one thing. Operations work piece by piece and what
they did before a failure stays done, so that a refused step leaves the session as it
was is a fact about the order in which they do things: whatever can fail comes before
anything is put in.

`Refused` says which steps fail, and with what; `Changes` says what the others do to the
session. Everything about courses of steps is derived from these two.
-/

namespace LabelTemplate.Session

/-- The field that a step is about, if it is about a single one. -/
def Step.addressed? : Step → Option FieldId
  | .updateValue id _ | .updatePosition id _ | .setEmbedding id _ | .field id => some id
  | .load _ _ | .updateLabel _ | .rename _ | .fields | .generate | .preview | .exportFile => none

/-- The steps that a session refuses, and what with. -/
inductive Refused (s : Session) : Step → Error → Prop
  /-- No field has the name. -/
  | unknown {st : Step} {id : FieldId} (haddressed : st.addressed? = some id)
    (hunknown : ∀ f ∈ s.fields, f.id ≠ id) : Refused s st (.fieldNotFound id)
  /-- The field is there, but the coordinates are none. -/
  | coordinates {f : Field} (hf : f ∈ s.fields) (faults : List Fault) :
    Refused s (.updatePosition f.id (.rejected faults)) (.rejected faults)
  /-- The measures are none. -/
  | measures {change : Label → Checked Label} {faults : List Fault}
    (hrejected : change s.label = .rejected faults) :
    Refused s (.updateLabel change) (.rejected faults)

/-- What the other steps do to a session: one attribute of one field, or one part of the whole. -/
inductive Changes (s : Session) : Step → Session → Prop
  /-- The addressed field has another value. -/
  | value {before behind : List Field} {f : Field} (hfields : s.fields = before ++ f :: behind)
    (value : Text) :
    Changes s (.updateValue f.id value)
      { s with fields := before ++ { f with currentValue := s.entered f.kind value } :: behind }
  /-- The addressed field has another position. -/
  | position {before behind : List Field} {f : Field} (hfields : s.fields = before ++ f :: behind)
    (position : Position) :
    Changes s (.updatePosition f.id (.accepted position))
      { s with fields := before ++ { f with currentPosition := some position } :: behind }
  /-- The addressed field is chosen for embedding or not, if it is an image. -/
  | embedding {before behind : List Field} {f : Field} (hfields : s.fields = before ++ f :: behind)
    (selected : Bool) :
    Changes s (.setEmbedding f.id selected)
      { s with fields := before ++ { f with embedded := selected && f.kind == .image } :: behind }
  /-- The label has other measures. -/
  | label {change : Label → Checked Label} {label : Label}
    (haccepted : change s.label = .accepted label) :
    Changes s (.updateLabel change) { s with label := label }
  /-- The template has another file name. -/
  | rename (fileName : Text) : Changes s (.rename fileName) { s with fileName := fileName }
  /-- There is another template. -/
  | load (raw fileName : Text) : Changes s (.load raw fileName) (s.load raw fileName)
  /-- Looking at a field changes nothing. -/
  | field {f : Field} (hf : f ∈ s.fields) : Changes s (.field f.id) s
  /-- Looking at all fields changes nothing. -/
  | fields : Changes s .fields s
  /-- Generating changes nothing. -/
  | generate : Changes s .generate s
  /-- Previewing changes nothing. -/
  | preview : Changes s .preview s
  /-- Exporting changes nothing. -/
  | exportFile : Changes s .exportFile s

/-! ## Running operations -/

section

variable {α β : Type} {s s' : Session} {x : Operation α}

theorem run_bind_of_ok {a : α} (h : x.run s = (.ok a, s')) (f : α → Operation β) :
    (x >>= f).run s = (f a).run s' := by
  rw [ExceptT.run_bind]
  simp only [bind, StateT.bind, h]

theorem run_bind_of_error {e : Error} (h : x.run s = (.error e, s')) (f : α → Operation β) :
    (x >>= f).run s = (.error e, s') := by
  rw [ExceptT.run_bind]
  simp only [bind, StateT.bind, h]
  rfl

end

variable {s : Session} {id : FieldId}

/-- Looking up a field does nothing to the session, whether it is there or not. -/
theorem run_field (s : Session) (id : FieldId) :
    (field id).run s = ((match s.fields.find? (·.id == id) with
      | some f => .ok f
      | none => .error (.fieldNotFound id)), s) := by
  have hget : (get : Operation Session).run s = (.ok s, s) := rfl
  rw [field, run_bind_of_ok hget]
  cases s.fields.find? (·.id == id) <;> rfl

/-- The session with a field in the place of the one with its name. -/
def replaced (s : Session) (f : Field) : Session :=
  { s with fields := s.fields.map fun g => if g.id = f.id then f else g }

/-- A step about a field that is not there fails, and nothing was done before. -/
theorem take_of_unknown {st : Step} (haddressed : st.addressed? = some id)
    (hfind : s.fields.find? (·.id == id) = none) :
    s.take st = (.error (.fieldNotFound id), s) := by
  have hfield : (field id).run s = (.error (.fieldNotFound id), s) := by rw [run_field, hfind]
  cases st with
  | updateValue _ value =>
      obtain rfl := Option.some.inj haddressed
      exact run_bind_of_error (run_bind_of_error hfield _) _
  | updatePosition _ position =>
      obtain rfl := Option.some.inj haddressed
      exact run_bind_of_error (run_bind_of_error hfield _) _
  | setEmbedding _ selected =>
      obtain rfl := Option.some.inj haddressed
      exact run_bind_of_error (run_bind_of_error hfield _) _
  | field _ =>
      obtain rfl := Option.some.inj haddressed
      exact run_bind_of_error hfield _
  | load | updateLabel | rename | fields | generate | preview | exportFile =>
      exact absurd haddressed (by simp [Step.addressed?])

/-- Each way of editing looks a field up and puts another in its place. -/
theorem take_of_found {st : Step} {f f' : Field} {x : Field → Operation Field}
    (hst : operation st = do let g ← field id >>= x; pure (.field g, []))
    (hfind : s.fields.find? (·.id == id) = some f)
    (hx : (x f).run s = (.ok f', s.replaced f')) :
    s.take st = (.ok (.field f', []), s.replaced f') := by
  have hfield : (field id).run s = (.ok f, s) := by rw [run_field, hfind]
  have hrun : (field id >>= x).run s = (.ok f', s.replaced f') := by
    rw [run_bind_of_ok hfield, hx]
  rw [take, hst, run_bind_of_ok hrun]
  rfl

theorem take_rejected_coordinates {f : Field} (hfind : s.fields.find? (·.id == id) = some f)
    (faults : List Fault) :
    s.take (.updatePosition id (.rejected faults)) = (.error (.rejected faults), s) := by
  have hfield : (field id).run s = (.ok f, s) := by rw [run_field, hfind]
  have hrun : (updatePosition id (.rejected faults)).run s = (.error (.rejected faults), s) := by
    rw [updatePosition, run_bind_of_ok hfield]
    rfl
  exact run_bind_of_error hrun _

theorem take_updateLabel (s : Session) (change : Label → Checked Label) :
    s.take (.updateLabel change) = match change s.label with
      | .accepted label => (.ok (.label label, []), { s with label := label })
      | .rejected faults => (.error (.rejected faults), s) := by
  have hget : (get : Operation Session).run s = (.ok s, s) := rfl
  cases hlabel : change s.label with
  | accepted label =>
      have hrun : (updateLabel change).run s = (.ok label, { s with label := label }) := by
        rw [updateLabel, run_bind_of_ok hget, hlabel]
        rfl
      rw [take, operation, run_bind_of_ok hrun]
      rfl
  | rejected faults =>
      have hrun : (updateLabel change).run s = (.error (.rejected faults), s) := by
        rw [updateLabel, run_bind_of_ok hget, hlabel]
        rfl
      exact run_bind_of_error hrun _

/-! ## One field in the place of another -/

/-- If names are different, what is done to the field of one name is done in one place. -/
theorem map_eq_of_nodup {before behind : List Field} {f : Field}
    (hids : ((before ++ f :: behind).map Field.id).Nodup) {change : Field → Field}
    (hchange : ∀ g, g.id ≠ f.id → change g = g) :
    (before ++ f :: behind).map change = before ++ change f :: behind := by
  rw [List.map_append, List.map_cons] at hids
  have hother : f.id ∉ before.map Field.id ++ behind.map Field.id :=
    (List.nodup_cons.mp (List.nodup_middle.mp hids)).1
  have hkept : ∀ gs : List Field, f.id ∉ gs.map Field.id → gs.map change = gs := by
    intro gs hgs
    have hsame : gs.map change = gs.map fun g => g :=
      List.map_congr_left fun g hg => hchange g fun heq => hgs (List.mem_map.mpr ⟨g, hg, heq⟩)
    rw [hsame, List.map_id']
  rw [List.mem_append, not_or] at hother
  rw [List.map_append, List.map_cons, hkept before hother.1, hkept behind hother.2]

theorem replaced_eq (hids : (s.fields.map Field.id).Nodup) {before behind : List Field}
    {f f' : Field} (hfields : s.fields = before ++ f :: behind) (hid : f'.id = f.id) :
    s.replaced f' = { s with fields := before ++ f' :: behind } := by
  rw [hfields] at hids
  rw [replaced, hfields, map_eq_of_nodup hids fun g hg => if_neg (hid ▸ hg), if_pos hid.symm]

/-- An edit of a field that is there succeeds, and puts the edited field in its place. -/
theorem changes_of_found (hids : (s.fields.map Field.id).Nodup) {st : Step}
    {before behind : List Field} {f f' : Field} {x : Field → Operation Field}
    (hst : operation st = do let g ← field id >>= x; pure (.field g, []))
    (hfind : s.fields.find? (·.id == id) = some f) (hx : (x f).run s = (.ok f', s.replaced f'))
    (hfields : s.fields = before ++ f :: behind) (hid : f'.id = f.id)
    (hchanges : Changes s st { s with fields := before ++ f' :: behind }) :
    ∃ reply, Changes s st (s.after st) ∧ (s.take st).1 = .ok reply := by
  have htake := take_of_found hst hfind hx
  refine ⟨(.field f', []), ?_, by rw [htake]⟩
  rw [after, htake]
  rwa [← replaced_eq hids hfields hid] at hchanges

/-- **A refused step leaves the session as it was.** -/
theorem take_of_refused {st : Step} {e : Error} (h : Refused s st e) :
    s.take st = (.error e, s) := by
  cases h with
  | @unknown _ id haddressed hunknown =>
      refine take_of_unknown haddressed (List.find?_eq_none.mpr fun f hf => ?_)
      simpa using hunknown f hf
  | @coordinates f hf faults =>
      cases hfind : s.fields.find? (·.id == f.id) with
      | none => exact absurd (List.find?_eq_none.mp hfind f hf) (by simp)
      | some g => exact take_rejected_coordinates hfind faults
  | @measures change faults hrejected => rw [take_updateLabel, hrejected]

/-- **What a step does:** it is refused and nothing has changed, or it changes one thing. -/
theorem take_cases (hids : (s.fields.map Field.id).Nodup) (st : Step) :
    (∃ e, Refused s st e) ∨
      ∃ reply, Changes s st (s.after st) ∧ (s.take st).1 = .ok reply := by
  -- a step about one field begins with looking it up
  have hlookup : ∀ id, st.addressed? = some id → (∃ e, Refused s st e) ∨
        ∃ before f behind, s.fields = before ++ f :: behind ∧ f.id = id ∧
          s.fields.find? (·.id == id) = some f := by
    intro id haddressed
    cases hfind : s.fields.find? (·.id == id) with
    | none =>
        refine .inl ⟨_, .unknown haddressed fun f hf => ?_⟩
        simpa using List.find?_eq_none.mp hfind f hf
    | some f =>
        obtain ⟨hf, before, behind, hfields, _⟩ := List.find?_eq_some_iff_append.mp hfind
        exact .inr ⟨before, f, behind, hfields, beq_iff_eq.mp hf, rfl⟩
  cases st with
  | updateValue id value =>
      rcases hlookup id rfl with hrefused | ⟨before, f, behind, hfields, rfl, hfind⟩
      · exact .inl hrefused
      · exact .inr (changes_of_found hids rfl hfind rfl hfields rfl (.value hfields value))
  | updatePosition id position =>
      rcases hlookup id rfl with hrefused | ⟨before, f, behind, hfields, rfl, hfind⟩
      · exact .inl hrefused
      · cases position with
        | accepted p =>
            exact .inr (changes_of_found hids rfl hfind rfl hfields rfl (.position hfields p))
        | rejected faults =>
            exact .inl ⟨_, .coordinates (List.mem_of_find?_eq_some hfind) faults⟩
  | setEmbedding id selected =>
      rcases hlookup id rfl with hrefused | ⟨before, f, behind, hfields, rfl, hfind⟩
      · exact .inl hrefused
      · exact .inr (changes_of_found hids rfl hfind rfl hfields rfl (.embedding hfields selected))
  | updateLabel change =>
      cases hlabel : change s.label with
      | accepted label =>
          have htake := take_updateLabel s change
          rw [hlabel] at htake
          refine .inr ⟨_, ?_, by rw [htake]⟩
          rw [after, htake]
          exact .label hlabel
      | rejected faults => exact .inl ⟨_, .measures hlabel⟩
  | field id =>
      rcases hlookup id rfl with hrefused | ⟨before, f, behind, hfields, rfl, hfind⟩
      · exact .inl hrefused
      · have hfield : (Session.field f.id).run s = (.ok f, s) := by rw [run_field, hfind]
        have htake : s.take (.field f.id) = (.ok (.field f, []), s) := by
          rw [take, operation, run_bind_of_ok hfield]
          rfl
        refine .inr ⟨_, ?_, by rw [htake]⟩
        rw [after, htake]
        exact .field (List.mem_of_find?_eq_some hfind)
  | load raw fileName => exact .inr ⟨_, .load raw fileName, rfl⟩
  | rename fileName => exact .inr ⟨_, .rename fileName, rfl⟩
  | fields => exact .inr ⟨_, .fields, rfl⟩
  | generate => exact .inr ⟨_, .generate, rfl⟩
  | preview => exact .inr ⟨_, .preview, rfl⟩
  | exportFile => exact .inr ⟨_, .exportFile, rfl⟩

end LabelTemplate.Session
