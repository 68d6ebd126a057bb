import LabelTemplate.Proofs.Regeneration.FreeMoves

/-!
# The fields of a document with one field moved

A document is written with one field moved and is then searched again. If the field moves freely,
the fields found are those there were, one by one: the moved one is at its new position, and the
others are where they were (`move_keeps_fields_iff`). Their values are the same, too, with one
exception. The moved statement may stand in the value of another field, and that value has the
new coordinates in it.

If the field does not move freely, another field is found or one is missing. Nothing is lost from
the document, though: it has as many statements of each kind as before.
-/

namespace LabelTemplate.Regeneration

open Scan Statement

/-- The value of a field has the statement of the moved one in it, at the new position. -/
def ShowsMove (document : Text) (f : Field) (p : Position) (g g' : Field) : Prop :=
  ∃ r ∈ eligibleRecords document, FoundAt r f ∧ ∃ q ∈ eligibleRecords document, FoundAt q g ∧
    q.start < r.start ∧ r.start < q.stop ∧
      FrontExchanged r.statement (r.statement.revised { position := some p })
        g.templateValue g'.templateValue

/-- What a field of a document becomes if `f` is moved to `p`. -/
structure KeptBeside (document : Text) (f : Field) (p : Position) (g g' : Field) : Prop where
  /-- The kind stays. -/
  kind : g'.kind = g.kind
  /-- The number of the statement stays. -/
  ordinal : g'.sourceOrdinal = g.sourceOrdinal
  /-- The moved field is at the new position, every other where it was. -/
  position : g'.position = if g = f then p else g.position
  /-- The value stays, unless the moved statement stands in it. -/
  value : g'.templateValue = g.templateValue ∨ ShowsMove document f p g g'

/-! ## The fields of both documents -/

theorem map_key_of_keptBeside {document document' : Text} {f : Field} {p : Position}
    (h : List.Forall₂ (KeptBeside document f p) (Extraction.fields document)
      (Extraction.fields document')) :
    (Extraction.fields document').map Field.key = (Extraction.fields document).map Field.key := by
  refine (map_eq_map_of_forall₂ (h.imp fun g g' hg => ?_)).symm
  exact congrArg₂ _ hg.kind.symm hg.ordinal.symm

section

variable {document document' : Text} {f : Field} {p : Position} {r : Record} {s : Statement}

/-- If the fields correspond, the same records have fields. -/
theorem OneMoved.eligible_iff_of_forall₂ (h : OneMoved document document' r s p)
    (hfields : List.Forall₂ (KeptBeside document f p) (Extraction.fields document)
      (Extraction.fields document')) :
    ∀ q ∈ allRecords document, q.Eligible document ↔ EligibleAfter document r p q := by
  intro q hq
  obtain ⟨q', hq', hmoved⟩ :=
    exists_of_mem_of_forall₂ (forall₂_allRecords_of_records h.forall₂_records) hq
  rw [← h.eligible_iff hmoved, ← key_mem_map_fields_iff hq, ← key_mem_map_fields_iff hq',
    hmoved.key_eq, map_key_of_keptBeside hfields]

/-- If the same records have fields, these correspond. -/
theorem OneMoved.forall₂_eligibleRecords (h : OneMoved document document' r s p)
    (heligible : ∀ q ∈ allRecords document, q.Eligible document ↔ EligibleAfter document r p q) :
    List.Forall₂ (RecordMoved r s p) (eligibleRecords document) (eligibleRecords document') := by
  have hall := (List.forall₂_and_left _ _).mpr
    ⟨fun _ hq => hq, forall₂_allRecords_of_records h.forall₂_records⟩
  refine (List.rel_filter (fun q q' hq => ?_) hall).imp fun _ _ hq => hq.2
  show decide (q.Eligible document) = true ↔ decide (q'.Eligible document') = true
  rw [decide_eq_true_iff, decide_eq_true_iff, heligible q hq.1, h.eligible_iff hq.2]

theorem OneMoved.position_eq (h : OneMoved document document' r s p)
    (hf : f ∈ Extraction.fields document) (hat : FoundAt r f) {q q' : Record} {g g' : Field}
    (hg : g ∈ Extraction.fields document) (hq : q ∈ eligibleRecords document)
    (hmoved : RecordMoved r s p q q') (hatg : FoundAt q g) (hatg' : FoundAt q' g') :
    g'.position = if g = f then p else g.position := by
  have hposition := hatg'.position_eq.symm.trans hmoved.position
  rw [movedPosition?, hatg.position_eq] at hposition
  have hstart : q.start = r.start ↔ g = f := by
    rw [eq_iff_of_foundAt hf hg h.mem hq hat hatg]
    exact ⟨h.eq_of_start_eq hq, fun hqr => congrArg _ hqr⟩
  simp only [hstart] at hposition
  split
  · rename_i heq
    rw [if_pos heq] at hposition
    exact Option.some.inj hposition
  · rename_i hne
    rw [if_neg hne] at hposition
    exact Option.some.inj hposition

/-- The field at a record is kept as the one at what the record becomes. -/
theorem OneMoved.keptBeside
    (h : OneMoved document document' r
      (r.statement.revised { position := if p = f.position then none else some p }) p)
    (hf : f ∈ Extraction.fields document) (hat : FoundAt r f) {q q' : Record} {g g' : Field}
    (hg : g ∈ Extraction.fields document) (hq : q ∈ eligibleRecords document)
    (hmoved : RecordMoved r
      (r.statement.revised { position := if p = f.position then none else some p }) p q q')
    (hatg : FoundAt q g) (hatg' : FoundAt q' g') : KeptBeside document f p g g' := by
  have hkey : g'.key = g.key := hatg'.key_eq.trans (hmoved.key_eq.trans hatg.key_eq.symm)
  refine ⟨congrArg Prod.fst hkey, congrArg Prod.snd hkey,
    h.position_eq hf hat hg hq hmoved hatg hatg', ?_⟩
  rw [ShowsMove, hatg.value_eq.1, hatg'.value_eq.1]
  rcases hmoved.value with hsame | ⟨hstart, hstop, hexchanged⟩
  · exact .inl hsame
  · by_cases hp : p = f.position
    · -- the field stays where it is, and so does its statement
      rw [if_pos hp, revised_empty] at hexchanged
      obtain ⟨before, after, hvalue, hvalue'⟩ := hexchanged
      exact .inl (hvalue'.trans hvalue.symm)
    · rw [if_neg hp] at hexchanged
      exact .inr ⟨r, h.mem, hat, q, hq, hatg, hstart, hstop, hexchanged⟩

/--
**A moved field costs no other exactly if it moves freely.**

Let one field of a template be moved, with the fields given in any order, and let the regenerated
document be searched for fields. It has as many statements of each kind as the template. Its fields
are those of the template one by one, in the same order, with the moved one at its new position,
the others at their old ones, and the same values but where the moved statement stands in one,
exactly if the field moves freely.
-/
theorem move_keeps_fields_iff (remap : Bool) {document : Text} {fields : List Field} {f : Field}
    {p : Position} (hf : f ∈ Extraction.fields document)
    (hfields : fields.Perm (movedOnly document f p)) (hshort : p.Short) :
    (∀ kind, (records kind (regenerate remap document fields)).length =
      (records kind document).length) ∧
    (List.Forall₂ (KeptBeside document f p) (Extraction.fields document)
      (Extraction.fields (regenerate remap document fields)) ↔ MovesFreely document f p) := by
  obtain ⟨r, hr, hat⟩ := exists_record_of_mem_fields hf
  have hmoved := oneMoved_regenerate remap hf hr hat hfields hshort
  refine ⟨fun kind => (hmoved.forall₂_records kind).length_eq.symm, ?_⟩
  rw [← hmoved.forall_eligible_iff hat]
  constructor
  · exact hmoved.eligible_iff_of_forall₂
  · intro heligible
    have hfound := forall₂_fields_of_eligibleRecords (hmoved.forall₂_eligibleRecords heligible)
    refine ((List.forall₂_and_left _ _).mpr ⟨fun _ hg => hg, hfound⟩).imp fun g g' hg => ?_
    obtain ⟨hg, q, hq, q', hqq', hatg, hatg'⟩ := hg
    exact hmoved.keptBeside hf hat hg hq hqq' hatg hatg'

end

/-- An image in the data of a text moves to the place of a bar code, and the text shows it. -/
theorem move_keeps_fields_iff_of_image :
    let document := "^FT1,2^BCN,80^FDa^FS^FT3,4^FDb^FO5,6^XGc,^FS".toList
    let f : Field :=
      { id := .found 0, kind := .image, position := ⟨5, 6⟩, templateValue := ['c'],
        currentValue := ['c'], imageName := some ['c'] }
    let moved := regenerate true document (movedOnly document f ⟨1, 2⟩).reverse
    f ∈ Extraction.fields document ∧ Position.Short ⟨1, 2⟩ ∧
      moved = "^FT1,2^BCN,80^FDa^FS^FT3,4^FDb^FO1,2^XGc,^FS".toList ∧
      (records .text moved).length = 2 ∧
      List.Forall₂ (KeptBeside document f ⟨1, 2⟩) (Extraction.fields document)
        (Extraction.fields moved) := by
  intro document f moved
  have hf : f ∈ Extraction.fields document := by decide
  have hshort : Position.Short ⟨1, 2⟩ := by decide
  obtain ⟨hlength, hfields⟩ := move_keeps_fields_iff true hf
    (List.reverse_perm (movedOnly document f ⟨1, 2⟩)) hshort
  exact ⟨hf, hshort, by decide +kernel, (hlength .text).trans (by decide),
    hfields.mpr (by decide)⟩

/--
A text that moves to a bar code is lost, and so is one that a bar code moves to; a bar code that
moves away from a text brings it to light; an image that moves within the data of a text is seen
in the text's value.
-/
theorem moves_cost_fields :
    let values := fun (document : Text) (kind : FieldKind) (p : Position) =>
      let moves := (Extraction.fields document).map fun f =>
        if f.kind = kind then f.withPosition p else f
      (Extraction.fields (regenerate true document moves)).map fun f => (f.kind, f.templateValue)
    let both := "^FT1,2^BCN,80^FDa^FS^FT3,4^FDb^FS".toList
    values both .text ⟨1, 2⟩ = [(.barcode, ['a'])] ∧
      values both .barcode ⟨3, 4⟩ = [(.barcode, ['a'])] ∧
      values "^FT1,2^BCN,80^FDa^FS^FT1,2^FDb^FS".toList .barcode ⟨3, 4⟩ =
        [(.barcode, ['a']), (.text, ['b'])] ∧
      values "^FT1,2^FDa^FO3,4^XGb,^FS".toList .image ⟨5, 6⟩ =
        [(.image, ['b']), (.text, "a^FO5,6^XGb,".toList)] := by
  decide +kernel

end LabelTemplate.Regeneration
