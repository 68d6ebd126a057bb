import LabelTemplate.Proofs.Session.Edits
import LabelTemplate.Proofs.Session.Invariant
import LabelTemplate.Proofs.Session.Outputs

/-!
# Only what the fields come to counts

How the fields of a template came to be what they are leaves no trace in what a session
gives out. What is seen of a field is what it was found as and what it has come to; the
first is the same whatever was edited, and the second is all that the documents can tell.
-/

namespace LabelTemplate

namespace Field

/-- What a field has come to. -/
def finalState (f : Field) : Text × Position × Bool :=
  (f.currentValue, f.effectivePosition, f.embedded)

/-- Where a field was moved to can be told from where it stands. -/
theorem movedTo?_eq (f : Field) :
    f.movedTo? = (some f.effectivePosition).filter (· != f.position) := by
  rw [movedTo?, effectivePosition]
  cases f.currentPosition with
  | none => simp [Option.filter]
  | some p => rfl

/-- What is seen of a field is what it was found as and what it has come to. -/
theorem seen_congr {f g : Field} (horigin : f.asFound.nameless = g.asFound.nameless)
    (hfinal : f.finalState = g.finalState) : f.seen = g.seen := by
  have hseen : ∀ f : Field, f.seen =
      { f.asFound.nameless with
        currentValue := f.finalState.1
        currentPosition :=
          (some f.finalState.2.1).filter (· != f.asFound.nameless.position)
        embedded := f.finalState.2.2
        orderIndex := 0 } := by
    intro f
    rw [seen, movedTo?_eq]
    rfl
  rw [hseen f, hseen g, horigin, hfinal]

theorem map_seen_congr {fields fields' : List Field}
    (horigin : (fields.map asFound).map nameless = (fields'.map asFound).map nameless)
    (hfinal : fields.map finalState = fields'.map finalState) :
    fields.map seen = fields'.map seen := by
  induction fields generalizing fields' with
  | nil => rw [List.map_eq_nil_iff.mp hfinal.symm]
  | cons f fields ih =>
      cases fields' with
      | nil => exact absurd hfinal (by simp)
      | cons g fields' =>
          obtain ⟨hf, hfields⟩ := List.cons.inj horigin
          obtain ⟨hf', hfields'⟩ := List.cons.inj hfinal
          rw [List.map_cons, List.map_cons, seen_congr hf hf', ih hfields hfields']

end Field

namespace Session

theorem Step.isLoad_of_addressed? {st : Step} (h : st.addressed?.isSome) : st.isLoad = false := by
  cases st <;> first | rfl | exact absurd h (by simp [Step.addressed?])

/-- A field that is back where it stood in the template is as if it had never been moved. -/
theorem finalState_without_moves {entered : FieldKind → Text → Text} {f : Field} {id : FieldId}
    {edits : List Step} (hunmoved : f.currentPosition = none)
    (hback : f.id = id →
      (actAll entered edits f).effectivePosition = (actAll entered edits f).position) :
    (actAll entered (edits.filter fun st => !st.moves id) f).finalState =
      (actAll entered edits f).finalState := by
  by_cases hid : f.id = id
  · have herase : Attribute.position.erase
        (actAll entered (edits.filter fun st => !st.moves id) f) =
        Attribute.position.erase (actAll entered edits f) := erase_actAll_filter id edits f
    generalize actAll entered edits f = moved at hback herase ⊢
    have hstays : (actAll entered (edits.filter fun st => !st.moves id) f).currentPosition =
        none := by
      rw [currentPosition_actAll fun st hst => ?_, hunmoved]
      rw [hid]
      simpa using (List.mem_filter.mp hst).2
    generalize actAll entered (edits.filter fun st => !st.moves id) f = stayed at herase hstays ⊢
    have hvalue : (Attribute.position.erase stayed).currentValue =
        (Attribute.position.erase moved).currentValue := by rw [herase]
    have hembedded : (Attribute.position.erase stayed).embedded =
        (Attribute.position.erase moved).embedded := by rw [herase]
    have hposition : (Attribute.position.erase stayed).position =
        (Attribute.position.erase moved).position := by rw [herase]
    have heffective : stayed.effectivePosition = moved.effectivePosition := by
      rw [hback hid, Field.effectivePosition, hstays]
      exact hposition
    exact Prod.ext hvalue (Prod.ext heffective hembedded)
  · rw [actAll_filter_of_ne edits hid]

theorem unmoved_of_mem_load {s : Session} {raw fileName : Text} {f : Field}
    (hf : f ∈ (s.load raw fileName).fields) : f.currentPosition = none := by
  rw [← s.map_asFound_load raw fileName] at hf
  obtain ⟨g, _, rfl⟩ := List.mem_map.mp hf
  rfl

section

variable {raw fileName : Text} {edits edits' : List Step}

/-- **The same final fields after the same load give the same documents.** -/
theorem outputs_eq_of_finalState {s t : Session} (hsettings : s.settings = t.settings)
    (hedits : ∀ st ∈ edits, st.addressed?.isSome) (hedits' : ∀ st ∈ edits', st.addressed?.isSome)
    (hfinal : ((s.load raw fileName).afterAll edits).fields.map Field.finalState =
      ((t.load raw fileName).afterAll edits').fields.map Field.finalState) :
    ((s.load raw fileName).afterAll edits).outputs =
      ((t.load raw fileName).afterAll edits').outputs := by
  have hs := s.fresh_load raw fileName
  have ht := t.fresh_load raw fileName
  have hs' := hs.since.afterAll hs fun st hst => Step.isLoad_of_addressed? (hedits st hst)
  have ht' := ht.since.afterAll ht fun st hst => Step.isLoad_of_addressed? (hedits' st hst)
  have horigin : (((s.load raw fileName).afterAll edits).fields.map Field.asFound).map
        Field.nameless =
      (((t.load raw fileName).afterAll edits').fields.map Field.asFound).map Field.nameless := by
    rw [hs'.fields, ht'.fields]
    exact map_nameless_load s t raw fileName
  -- an edit touches neither the settings nor the file name
  have hrest : ∀ {s : Session} {edits : List Step}, (s.fields.map Field.id).Nodup →
      (∀ st ∈ edits, st.addressed?.isSome) →
      (s.afterAll edits).settings = s.settings ∧ (s.afterAll edits).fileName = s.fileName := by
    intro s edits hids hedits
    rw [afterAll_eq hids hedits]
    exact ⟨rfl, rfl⟩
  obtain ⟨hsettings₁, hfileName₁⟩ := hrest hs.ids hedits
  obtain ⟨hsettings₂, hfileName₂⟩ := hrest ht.ids hedits'
  refine outputs_congr ?_ ?_ ?_ ?_ (hs'.ids hs) (ht'.ids ht) (Field.map_seen_congr horigin hfinal)
  · rw [hsettings₁, hsettings₂]
    exact hsettings
  · rw [hfileName₁, hfileName₂]
    rfl
  · rw [hs'.document, ht'.document]
    rfl
  · rw [hs'.definitions, ht'.definitions]
    rfl

end

/--
**What a session gives out depends on what the fields have come to, not on how.**

In two sessions with the same settings that load the same template, edits after which
every field has the same value, position and choice lead to the same documents. So edits
of different fields commute, a field that was moved and stands where it stood in the
template might as well never have been moved, and of the edits of one attribute of one
field only the last one counts.
-/
theorem history_leaves_no_trace {s t : Session} (hsettings : s.settings = t.settings)
    (raw fileName : Text) {edits edits' : List Step}
    (hedits : ∀ st ∈ edits, st.addressed?.isSome)
    (hedits' : ∀ st ∈ edits', st.addressed?.isSome) :
    let after := (s.load raw fileName).afterAll
    ((after edits).fields.map Field.finalState =
        ((t.load raw fileName).afterAll edits').fields.map Field.finalState →
        (after edits).outputs = ((t.load raw fileName).afterAll edits').outputs) ∧
      (∀ before st st' behind, edits = before ++ st :: st' :: behind →
        st.addressed? ≠ st'.addressed? →
        after (before ++ st' :: st :: behind) = after edits) ∧
      (∀ before st between later behind, edits = before ++ st :: between ++ later :: behind →
        later.Covers st → after (before ++ between ++ later :: behind) = after edits) ∧
      ∀ id, (∀ f ∈ (after edits).fields, f.id = id → f.effectivePosition = f.position) →
        (after (edits.filter fun st => !st.moves id)).outputs = (after edits).outputs := by
  intro after
  have hids := s.nodup_ids_load raw fileName
  refine ⟨outputs_eq_of_finalState hsettings hedits hedits', ?_, ?_, ?_⟩
  · rintro before st st' behind rfl hother
    refine afterAll_congr hids (fun u hu => hedits u ?_) hedits fun f _ =>
      actAll_swap hother before behind f
    simp only [List.mem_append, List.mem_cons] at hu ⊢
    tauto
  · rintro before st between later behind rfl hcovers
    refine afterAll_congr hids (fun u hu => hedits u ?_) hedits fun f _ =>
      (actAll_of_covers hcovers before between behind f).symm
    simp only [List.mem_append, List.mem_cons] at hu ⊢
    tauto
  · intro id hback
    have hfewer : ∀ st ∈ edits.filter fun st => !st.moves id, st.addressed?.isSome :=
      fun st hst => hedits st (List.mem_of_mem_filter hst)
    refine outputs_eq_of_finalState rfl hfewer hedits ?_
    simp only [after, afterAll_eq hids hedits] at hback
    rw [afterAll_eq hids hfewer, afterAll_eq hids hedits, List.map_map, List.map_map]
    refine List.map_congr_left fun f hf => ?_
    exact finalState_without_moves (unmoved_of_mem_load hf) fun hid =>
      hback _ (List.mem_map_of_mem hf) ((id_actAll _ edits f).trans hid)

/-- A template with one text, in two sessions that gave it different names. -/
theorem history_leaves_no_trace_of_return :
    let raw := "^XA^FT1,2^FDa^FS^XZ".toList
    let s : Session := { settings := {} }
    let t : Session := { settings := {}, namesGiven := 1 }
    let edits : List Step :=
      [.updatePosition (.found 0) (.accepted ⟨5, 6⟩), .updateValue (.found 0) ['b'],
        .updatePosition (.found 0) (.accepted ⟨1, 2⟩)]
    let edits' : List Step := [.updateValue (.found 1) ['b']]
    ((s.load raw []).afterAll edits).fields.map Field.finalState = [(['b'], ⟨1, 2⟩, false)] ∧
      ((s.load raw []).afterAll edits).outputs = ((t.load raw []).afterAll edits').outputs := by
  intro raw s t edits edits'
  have hload : ∀ s : Session, (s.load raw []).fields =
      [{ id := .found s.namesGiven, kind := .text, position := ⟨1, 2⟩
         templateValue := ['a'], currentValue := ['a'] }] := by
    intro s
    have hfound : Extraction.fields (Normalization.normalize raw) =
        [{ id := .found 0, kind := .text, position := ⟨1, 2⟩
           templateValue := ['a'], currentValue := ['a'] }] := by decide +kernel
    rw [load, hfound]
    simp [Field.order, Field.number, Field.sortByPlace, FieldKind.displayOrder, christen]
  have hedits : ∀ st ∈ edits, st.addressed?.isSome := by simp [edits, Step.addressed?]
  have hedits' : ∀ st ∈ edits', st.addressed?.isSome := by simp [edits', Step.addressed?]
  have hfinal : ((s.load raw []).afterAll edits).fields.map Field.finalState =
      [(['b'], ⟨1, 2⟩, false)] := by
    rw [afterAll_eq (s.nodup_ids_load raw []) hedits, hload]
    rfl
  have hfinal' : ((t.load raw []).afterAll edits').fields.map Field.finalState =
      [(['b'], ⟨1, 2⟩, false)] := by
    rw [afterAll_eq (t.nodup_ids_load raw []) hedits', hload]
    rfl
  have htrace := history_leaves_no_trace (s := s) (t := t) rfl raw [] hedits hedits'
  exact ⟨hfinal, htrace.1 (hfinal.trans hfinal'.symm)⟩

end Session

end LabelTemplate
