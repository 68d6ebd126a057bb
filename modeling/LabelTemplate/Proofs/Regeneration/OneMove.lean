import LabelTemplate.Proofs.Extraction.Correspondence
import LabelTemplate.Proofs.Regeneration.Printing
import LabelTemplate.Proofs.Regeneration.Reload
import LabelTemplate.Proofs.Statement.Coordinates

/-!
# A document with one field moved

If one field of a document is moved and nothing else is edited, one record is written again, with
other coordinates. So the document is the same but for the front of one statement, and the records
of each kind correspond one to one (`OneMoved.forall₂_records`): all have the numbers they had,
those at the place of the moved one have the new position, and the others have theirs.
-/

namespace LabelTemplate.Regeneration

open Scan Statement

/-- The fields of a document with one of them moved. -/
def movedOnly (document : Text) (f : Field) (p : Position) : List Field :=
  (Extraction.fields document).map fun g => if g = f then g.withPosition p else g

/-- The front of a record's statement is that of another statement, and the rest is as it was. -/
structure OneMoved (document document' : Text) (r : Record) (s : Statement) (p : Position) :
    Prop where
  /-- The record gives a field. -/
  mem : r ∈ eligibleRecords document
  /-- The other statement can be recognised. -/
  valid : s.Valid
  /-- It is of the record's kind. -/
  kind : s.kind = r.kind
  /-- It is at the new position. -/
  position : s.position? = some p
  /-- The documents differ in its front. -/
  cut : ∃ before after, document = before ++ (r.statement.front ++ after) ∧
    document' = before ++ (s.front ++ after) ∧ r.start = before.length ∧
    ∀ c ∈ after.head?, isCoordinate c = false

/-! ## The regenerated document -/

section

variable {remap : Bool} {document : Text} {fields : List Field} {f : Field} {p : Position}
  {r : Record}

theorem movedTo?_withPosition (f : Field) (p : Position) :
    (f.withPosition p).movedTo? = if p = f.position then none else some p := by
  by_cases h : p = f.position <;> simp [Field.movedTo?, Field.withPosition, Option.filter, h]

/-- A field that was only moved asks for new coordinates and nothing else. -/
theorem changeOf_withPosition (remap : Bool) (s : Statement) (hf : f ∈ Extraction.fields document) :
    changeOf remap s (f.withPosition p) =
      { position := if p = f.position then none else some p } := by
  have hunedited : (f.withPosition p).isEdited = false := by
    simp [Field.isEdited, Field.withPosition, (of_mem_fields hf).2]
  rw [changeOf, hunedited, movedTo?_withPosition]
  simp

theorem isModified_withPosition (hf : f ∈ Extraction.fields document) :
    (f.withPosition p).isModified = true ↔ p ≠ f.position := by
  have hunedited : (f.withPosition p).isEdited = false := by
    simp [Field.isEdited, Field.withPosition, (of_mem_fields hf).2]
  rw [Field.isModified, hunedited, Field.isMoved, movedTo?_withPosition]
  by_cases h : p = f.position <;> simp [h]

theorem movedOnly_eq (document : Text) (f : Field) (p : Position) :
    movedOnly document f p = (Extraction.fields document).map fun g =>
      g.edited (if g = f then [.position p] else []) := by
  refine List.map_congr_left fun g _ => ?_
  split <;> rfl

/-- Only the record of the moved field is written again. -/
theorem changedRecords_of_moved (hf : f ∈ Extraction.fields document)
    (hr : r ∈ eligibleRecords document) (hat : FoundAt r f)
    (hfields : fields.Perm (movedOnly document f p)) :
    changedRecords document fields = if p = f.position then [] else [r] := by
  rw [movedOnly_eq] at hfields
  have hmem : ∀ q, q ∈ changedRecords document fields ↔ q = r ∧ p ≠ f.position := by
    intro q
    rw [mem_changedRecords_iff]
    constructor
    · rintro ⟨hq, hsome⟩
      obtain ⟨g, hg, hatg⟩ := exists_foundAt hq
      obtain ⟨hkey, hvalue⟩ := g.key_templateValue_edited (if g = f then [.position p] else [])
      have hresolve := resolve?_eq_some_of_key (nodup_keys_of_perm_edited hfields)
        (hfields.mem_iff.mpr (List.mem_map.mpr ⟨g, hg, rfl⟩)) (hkey.trans hatg.key_eq)
        (hvalue.trans hatg.value_eq.1)
      rw [modifiedField?_of_mem_eligibleRecords hq, hresolve] at hsome
      have hmodified : (g.edited (if g = f then [.position p] else [])).isModified = true := by
        simpa using hsome
      by_cases hgf : g = f
      · subst hgf
        rw [if_pos rfl] at hmodified
        exact ⟨(eq_iff_of_foundAt hf hg hr hq hat hatg).mp rfl,
          (isModified_withPosition hg).mp hmodified⟩
      · -- the other fields are as they were found
        rw [if_neg hgf] at hmodified
        obtain ⟨hposition, hcurrent⟩ := of_mem_fields hg
        have hunedited : g.isModified = false := by
          rw [isModified_eq_isEdited hposition, Field.isEdited, hcurrent, bne_self_eq_false]
        exact absurd (hunedited.symm.trans hmodified) (by decide)
    · rintro ⟨rfl, hp⟩
      have hmodified : (f.edited (if f = f then [.position p] else [])).isModified = true := by
        rw [if_pos rfl]
        exact (isModified_withPosition hf).mpr hp
      exact ⟨hr, by rw [modifiedField?_of_foundAt hfields hr hf hat hmodified]; rfl⟩
  split
  · rename_i hp
    exact List.eq_nil_iff_forall_not_mem.mpr fun q hq => ((hmem q).mp hq).2 hp
  · rename_i hp
    have hperm : (changedRecords document fields).Perm [r] :=
      (List.perm_ext_iff_of_nodup (nodup_changedRecords document fields)
        (List.nodup_singleton r)).mpr fun q => by simp [hmem q, hp]
    exact List.perm_singleton.mp hperm

/-- Writing a document with one field moved puts another statement in one place. -/
theorem exists_regenerate_eq (remap : Bool) (hf : f ∈ Extraction.fields document)
    (hr : r ∈ eligibleRecords document) (hat : FoundAt r f)
    (hfields : fields.Perm (movedOnly document f p)) :
    ∃ before after, document = before ++ (r.statement.text ++ after) ∧ r.start = before.length ∧
      regenerate remap document fields = before ++ ((r.statement.revised
        { position := if p = f.position then none else some p }).text ++ after) := by
  have hdocument : document ≠ [] := by
    rintro rfl
    exact absurd hr (by simp [show eligibleRecords [] = [] from rfl])
  have hne : fields ≠ [] := List.ne_nil_of_mem
    (hfields.mem_iff.mpr (List.mem_map.mpr ⟨f, hf, rfl⟩))
  have hsplices := splices_regenerate remap hdocument hne
  have hchanged := changedRecords_of_moved hf hr hat hfields
  rw [hchanged] at hsplices
  by_cases hp : p = f.position
  · -- the field stays where it is, and nothing is written
    rw [if_pos hp, keptGreedily, keptAfter, inPlaceOrder, List.mergeSort_nil] at hsplices
    have hsame : regenerate remap document fields = document := by
      generalize regenerate remap document fields = out at hsplices ⊢
      cases hsplices
      rfl
    obtain ⟨before, after, hsplit, hstart⟩ := exists_eq_append_of_mem_records
      (mem_allRecords_iff.mp (mem_eligibleRecords_iff.mp hr).1)
    refine ⟨before, after, hsplit, hstart, ?_⟩
    rw [hsame, if_pos hp, revised_empty, ← hsplit]
  · have hmodified : modifiedField? fields r = some (f.withPosition p) := by
      rw [movedOnly_eq] at hfields
      have hedited : f.edited (if f = f then [.position p] else []) = f.withPosition p := by
        rw [if_pos rfl]
        rfl
      have hfound := modifiedField?_of_foundAt hfields hr hf hat
      rw [hedited] at hfound
      exact hfound ((isModified_withPosition hf).mpr hp)
    have hone : inPlaceOrder (keptGreedily [r]) = [r] := by
      simp [keptGreedily, keptAfter, inPlaceOrder]
    rw [if_neg hp, hone] at hsplices
    generalize hout : regenerate remap document fields = out at hsplices ⊢
    cases hsplices with
    | @next _ gap rest out _ _ hstart hrest =>
        cases hrest
        refine ⟨gap, rest, rfl, by omega, ?_⟩
        rw [rewritten, hmodified]
        simp only [changeOf_withPosition remap r.statement hf, text_revised]

/-- **A document that is written with one field moved has other coordinates in one place.** -/
theorem oneMoved_regenerate (remap : Bool) (hf : f ∈ Extraction.fields document)
    (hr : r ∈ eligibleRecords document) (hat : FoundAt r f)
    (hfields : fields.Perm (movedOnly document f p)) (hshort : p.Short) :
    OneMoved document (regenerate remap document fields) r
      (r.statement.revised { position := if p = f.position then none else some p }) p := by
  have hvalid := (kind_valid_of_mem_records
    (mem_allRecords_iff.mp (mem_eligibleRecords_iff.mp hr).1)).2
  have hadmissible : Change.Admissible r.statement.kind
      { position := if p = f.position then none else some p } := by
    refine ⟨fun v hv => absurd hv (by simp), fun q hq => ?_⟩
    have hq : q ∈ if p = f.position then none else some p := hq
    split at hq
    · exact absurd hq (by simp)
    · exact Option.some.inj hq ▸ hshort
  refine ⟨hr, hvalid.revised hadmissible, rfl, ?_, ?_⟩
  · split
    · rename_i hp
      rw [revised_empty, hp]
      exact hat.position_eq
    · exact position?_revised rfl hshort
  · obtain ⟨before, after, hdocument, hstart, hregenerate⟩ :=
      exists_regenerate_eq remap hf hr hat hfields
    refine ⟨before, r.statement.middle ++ (r.statement.kind.dataCommand ++
      (r.statement.value ++ (r.statement.kind.closer ++ after))), ?_, ?_, hstart,
      hvalid.boundary_append _⟩
    · rw [hdocument, text_eq_front]
      simp
    · rw [hregenerate, text_eq_front]
      simp [revised, addsMarker]

end

/-! ## The records -/

/-- Where a record is if another one is moved to a new position; at one place there is one. -/
def movedPosition? (r : Record) (p : Position) (q : Record) : Option Position :=
  if q.start = r.start then some p else q.position?

/-- What a record becomes if one is moved. -/
structure RecordMoved (r : Record) (s : Statement) (p : Position) (q q' : Record) : Prop where
  /-- The number stays. -/
  ordinal : q'.ordinal = q.ordinal
  /-- The kind stays. -/
  kind : q'.kind = q.kind
  /-- At the place of the moved record is the new position, elsewhere the old ones. -/
  position : q'.position? = movedPosition? r p q
  /-- The value stays, unless the moved record starts within it. -/
  value : q'.value = q.value ∨
    q.start < r.start ∧ r.start < q.stop ∧ FrontExchanged r.statement s q.value q'.value

theorem RecordMoved.key_eq {r q q' : Record} {s : Statement} {p : Position}
    (h : RecordMoved r s p q q') : q'.key = q.key := by
  rw [Record.key, Record.key, h.kind, h.ordinal]

namespace OneMoved

variable {document document' : Text} {r : Record} {s : Statement} {p : Position}

theorem valid_statement (h : OneMoved document document' r s p) : r.statement.Valid :=
  (kind_valid_of_mem_records (mem_allRecords_iff.mp (mem_eligibleRecords_iff.mp h.mem).1)).2

/-- **The records of each kind correspond one to one.** -/
theorem forall₂_records (h : OneMoved document document' r s p) (kind : FieldKind) :
    List.Forall₂ (RecordMoved r s p) (records kind document) (records kind document') := by
  obtain ⟨before, after, rfl, rfl, hstart, hboundary⟩ := h.cut
  have hhits := @forall₂_hitsFrom_front _ _ _ kind h.valid_statement h.valid h.kind hboundary
    0 0 before
  rw [Nat.zero_add, ← hstart] at hhits
  refine (forall₂_records_of_hits hhits).imp fun q q' hq => ?_
  obtain ⟨hordinal, hreseated⟩ := hq
  refine ⟨hordinal, hreseated.kind, ?_, hreseated.value⟩
  rw [movedPosition?]
  split
  · rename_i hplace
    obtain ⟨hx, hy⟩ := hreseated.here hplace
    rw [← h.position, Record.position?, position?, position?]
    exact congrArg₂ _ hx hy
  · rename_i hplace
    obtain ⟨hx, hy⟩ := hreseated.elsewhere hplace
    exact congrArg₂ _ hx hy

end OneMoved

end LabelTemplate.Regeneration
