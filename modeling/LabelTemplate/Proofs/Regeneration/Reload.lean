import LabelTemplate.Proofs.Extraction.Correspondence
import LabelTemplate.Proofs.Extraction.Separation
import LabelTemplate.Proofs.Regeneration.Rescan
import LabelTemplate.Proofs.Text.Escape

/-!
# Edited values survive a reload

A regenerated document is searched again, and the fields that come out are the ones that
went in, with what was written as the new value in the template. Everything rests on
`scan_of_splices`; what is left is to see that each record written again `Follows` in
all three scans. A record is matched by the scan for its own kind, a bar code by the scan
for texts too; to any other scan it is text before and afterwards.
-/

namespace LabelTemplate

open Scan Statement

/-! ## Edited values -/

namespace Regeneration

/-- Every changed record is only given another value. -/
def OnlyRewords (remap : Bool) (document : Text) (fields : List Field) : Prop :=
  ∀ r ∈ changedRecords document fields, ∀ f, modifiedField? fields r = some f →
    (changeOf remap r.statement f).Rewords r.kind

/-! ## The change at a place -/

/-- How the record at a place is changed; not at all if it is not written again. -/
def changeAt (remap : Bool) (document : Text) (fields : List Field) (start : Nat) :
    Statement.Change :=
  (((changedRecords document fields).find? (·.start == start)).bind fun r =>
    (modifiedField? fields r).map (changeOf remap r.statement)).getD {}

section Reload

variable {remap : Bool} {document : Text} {fields : List Field}

theorem changeAt_of_mem (hseparated : WellSeparated document) {r : Record} {f : Field}
    (hr : r ∈ changedRecords document fields) (hf : modifiedField? fields r = some f) :
    changeAt remap document fields r.start = changeOf remap r.statement f := by
  have hfind : (changedRecords document fields).find? (·.start == r.start) = some r := by
    cases h : (changedRecords document fields).find? (·.start == r.start) with
    | none => exact absurd (List.find?_eq_none.mp h r hr) (by simp)
    | some s =>
        have hs := mem_changedRecords_iff.mp (List.mem_of_find?_eq_some h)
        rw [hseparated.eq_of_start_eq hs.1 (mem_changedRecords_iff.mp hr).1
          (by simpa using List.find?_some h)]
  rw [changeAt, hfind, Option.bind_some, hf]
  rfl

theorem changeAt_of_forall_ne {start : Nat}
    (h : ∀ r ∈ changedRecords document fields, start ≠ r.start) :
    changeAt remap document fields start = {} := by
  have hfind : (changedRecords document fields).find? (·.start == start) = none :=
    List.find?_eq_none.mpr fun r hr => by simpa using (h r hr).symm
  rw [changeAt, hfind]
  rfl

theorem revised_empty (s : Statement) : s.revised {} = s := by
  cases s
  simp [Statement.revised, addsMarker]

theorem position_changeAt (honly : OnlyRewords remap document fields) (start : Nat) :
    (changeAt remap document fields start).position = none := by
  unfold changeAt
  cases h : (changedRecords document fields).find? (·.start == start) with
  | none => rfl
  | some r =>
      have hr := List.mem_of_find?_eq_some h
      cases hf : modifiedField? fields r with
      | none => simp [hf]
      | some f => simpa [hf] using (honly r hr f hf).position

/-! ## All three scans follow -/

/-- A match that overlaps a record that gives a field is that record's statement, to be changed. -/
theorem own_of_overlaps (hseparated : WellSeparated document) {kind : FieldKind} {q r : Record}
    (hq : q ∈ records kind document) (hr : r ∈ eligibleRecords document)
    (hoverlaps : q.overlaps r = true) {change : Statement.Change}
    (hchange : change.Rewords r.kind) :
    q.start = r.start ∧ q.statement.text = r.statement.text ∧
      (q.statement.revised change).kind = kind ∧ (q.statement.revised change).Valid ∧
      r.statement.render change = (q.statement.revised change).text := by
  obtain ⟨hrecord, heligible⟩ := mem_eligibleRecords_iff.mp hr
  have hvalid := (kind_valid_of_mem_records (mem_allRecords_iff.mp hrecord)).2
  have hqrecord := mem_allRecords_of_mem_records hq
  have hqkind := (kind_valid_of_mem_records hq).1
  rw [text_revised]
  by_cases hkind : q.kind = r.kind
  · -- the match is the record itself
    obtain rfl := eq_of_overlaps_of_kind_eq hqrecord hrecord hkind hoverlaps
    exact ⟨rfl, rfl, hqkind, hvalid.revised hchange.admissible, rfl⟩
  · obtain ⟨hstart, ⟨hbarcode, htext⟩ | ⟨htext, hbarcode⟩⟩ :=
      hseparated q hqrecord r hrecord hkind hoverlaps
    · -- a text in the place of a bar code gives no field
      exact absurd heligible (not_eligible_of_barcode
        (mem_records_of_mem_allRecords hqrecord hbarcode)
        (mem_records_of_mem_allRecords hrecord htext) hstart)
    · -- the record is a bar code, and the match the same statement as a text
      obtain rfl : kind = .text := hqkind.symm.trans htext
      replace hchange : change.Rewords .barcode := hbarcode ▸ hchange
      have hadmissible : change.Admissible .text :=
        ⟨hchange.admissible.value, hchange.admissible.position⟩
      rw [statement_eq_asText (mem_records_of_mem_allRecords hrecord hbarcode) hq hstart.symm,
        render_asText hbarcode hchange]
      exact ⟨hstart, text_asText hbarcode, rfl, (hvalid.asText hbarcode).revised hadmissible, rfl⟩

theorem exists_change (hseparated : WellSeparated document)
    (honly : OnlyRewords remap document fields) {r : Record}
    (hr : r ∈ changedRecords document fields) :
    ∃ change : Statement.Change, changeAt remap document fields r.start = change ∧
      change.Rewords r.kind ∧ rewritten remap fields r = r.statement.render change := by
  obtain ⟨f, hf⟩ := Option.isSome_iff_exists.mp (mem_changedRecords_iff.mp hr).2
  exact ⟨_, changeAt_of_mem hseparated hr hf, honly r hr f hf, by rw [rewritten, hf]⟩

/-- **Each scan of a well separated document follows when values are changed.** -/
theorem follows (hseparated : WellSeparated document) (honly : OnlyRewords remap document fields)
    (kind : FieldKind) :
    Follows kind (rewritten remap fields)
      (fun start s => s.revised (changeAt remap document fields start))
      (inPlaceOrder (changedRecords document fields)) (hits (recognise kind) document) := by
  have hmem : ∀ r, r ∈ inPlaceOrder (changedRecords document fields) ↔
      r ∈ changedRecords document fields := fun r => (List.mergeSort_perm _ _).mem_iff
  constructor
  · intro r hr i s his hbefore hbehind
    replace hr := (hmem r).mp hr
    obtain ⟨change, hat, hrewords, hwrite⟩ := exists_change hseparated honly hr
    rw [← map_records] at his
    obtain ⟨q, hq, heq⟩ := List.mem_map.mp his
    obtain ⟨rfl, rfl⟩ := Prod.mk.inj heq
    have hown := own_of_overlaps hseparated hq (mem_changedRecords_iff.mp hr).1
      (Record.overlaps_iff.mpr ⟨hbefore, hbehind⟩) hrewords
    rw [hown.1, hat, hwrite]
    exact ⟨rfl, hown.2⟩
  · intro r hr hno
    replace hr := (hmem r).mp hr
    obtain ⟨change, _, hrewords, hwrite⟩ := exists_change hseparated honly hr
    have hrecord := mem_allRecords_of_mem_changedRecords hr
    have hvalid := (kind_valid_of_mem_records (mem_allRecords_iff.mp hrecord)).2
    rw [hwrite]
    refine hvalid.exists_quiet hrewords ?_
    -- an image is matched by the scan for images
    by_contra hboth
    rw [not_or, not_not, not_not] at hboth
    refine hno r.statement ?_
    rw [← map_records, hboth.1]
    exact List.mem_map.mpr ⟨r, mem_records_of_mem_allRecords hrecord hboth.2, rfl⟩
  · intro i s _ hno
    rw [changeAt_of_forall_ne fun r hr => hno r ((hmem r).mpr hr), revised_empty]

theorem keptGreedily_changedRecords (hseparated : WellSeparated document) :
    keptGreedily (changedRecords document fields) = changedRecords document fields := by
  refine keptAfter_eq_self ?_ fun _ _ _ hs => absurd hs (by simp)
  refine (nodup_changedRecords document fields).pairwise_of_forall_ne fun r hr s hs hne => ?_
  rw [Bool.eq_false_iff]
  exact fun h => hne (hseparated.eq_of_overlaps (mem_changedRecords_iff.mp hr).1
    (mem_changedRecords_iff.mp hs).1 h)

/-! ## The records of the regenerated document -/

/-- What a record of a document is in the regenerated document, apart from its place. -/
structure Becomes (change : Nat → Statement.Change) (r r' : Record) : Prop where
  /-- The number stays. -/
  ordinal : r'.ordinal = r.ordinal
  /-- The statement is changed as its place says. -/
  statement : r'.statement = r.statement.revised (change r.start)

theorem Becomes.key_eq {change : Nat → Statement.Change} {r r' : Record}
    (h : Becomes change r r') : r'.key = r.key := by
  simp only [Record.key, Record.kind, h.ordinal, h.statement, Statement.revised]

theorem Becomes.position?_eq {change : Nat → Statement.Change} {r r' : Record}
    (h : Becomes change r r') (hunmoved : (change r.start).position = none) :
    r'.position? = r.position? := by
  simp only [Record.position?, Statement.position?, h.statement, Statement.revised, hunmoved]

section

variable (hseparated : WellSeparated document) (honly : OnlyRewords remap document fields)
  (hdocument : document ≠ []) (hfields : fields ≠ [])

include hseparated honly hdocument hfields

theorem forall₂_records (kind : FieldKind) :
    List.Forall₂ (Becomes (changeAt remap document fields)) (records kind document)
      (records kind (regenerate remap document fields)) := by
  have hsplices := splices_regenerate remap hdocument hfields
  rw [keptGreedily_changedRecords hseparated] at hsplices
  have hscan := (scan_of_splices hsplices (follows hseparated honly kind)).2.symm
  rw [found, ← List.forall₂_eq_eq_eq, List.forall₂_map_left_iff, List.forall₂_map_right_iff]
    at hscan
  exact (forall₂_records_of_hits hscan).imp fun _ _ h => ⟨h.1, h.2.symm⟩

/-- Nothing is moved, so the same records give fields. -/
theorem forall₂_eligibleRecords :
    List.Forall₂ (Becomes (changeAt remap document fields)) (eligibleRecords document)
      (eligibleRecords (regenerate remap document fields)) :=
  forall₂_eligibleRecords_of_records (forall₂_records hseparated honly hdocument hfields)
    (fun _ _ h => congrArg Prod.fst h.key_eq)
    fun _ _ h => h.position?_eq (position_changeAt honly _)

end

/-! ## The fields of the regenerated document -/

theorem of_mem_fields {f : Field} (h : f ∈ Extraction.fields document) :
    f.currentPosition = none ∧ f.currentValue = f.templateValue := by
  obtain ⟨x, _, rfl⟩ := List.mem_map.mp h
  exact ⟨rfl, rfl⟩

theorem isModified_eq_isEdited {f : Field} (h : f.currentPosition = none) :
    f.isModified = f.isEdited := by
  simp [Field.isModified, Field.isMoved, Field.movedTo?, h]

end Reload

section

variable {remap : Bool} {document : Text} {fields : List Field} {r r' : Record} {f f' g : Field}

end

end Regeneration

end LabelTemplate
