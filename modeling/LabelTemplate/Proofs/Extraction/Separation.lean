import LabelTemplate.Proofs.Extraction.Eligible
import LabelTemplate.Proofs.Statement.Rewording

/-!
# Documents in which the records are kept apart

Where records of different kinds overlap, the value of one is part of the other, and to
write one is to change the other. In a well separated document this does not happen.

The exception is a bar code, which is a text at the same time: both records are the same
characters. But the bar code claims its place, so the text gives no field, and
the records that do give fields have no character in common.
-/

namespace LabelTemplate

open Statement

/--
Records of different kinds have no character in common, unless they are a bar code and
a text that start at the same place.
-/
def WellSeparated (document : Text) : Prop :=
  ∀ r ∈ allRecords document, ∀ s ∈ allRecords document,
    r.kind ≠ s.kind → r.overlaps s = true →
      r.start = s.start ∧ (r.kind = .barcode ∧ s.kind = .text ∨ r.kind = .text ∧ s.kind = .barcode)

instance (document : Text) : Decidable (WellSeparated document) :=
  inferInstanceAs (Decidable (∀ r ∈ allRecords document, ∀ s ∈ allRecords document, _ → _ → _))

/-! ## Records at one place -/

/-- A bar code and a text at the same place are one statement, read in two ways. -/
theorem statement_eq_asText {document : Text} {r s : Record} (hr : r ∈ records .barcode document)
    (hs : s ∈ records .text document) (hstart : r.start = s.start) :
    s.statement = r.statement.asText := by
  obtain ⟨hkind, hvalid⟩ := kind_valid_of_mem_records hr
  obtain ⟨hkind', hvalid'⟩ := kind_valid_of_mem_records hs
  obtain ⟨before, after, hdocument, hlength⟩ := exists_eq_append_of_mem_records hr
  obtain ⟨before', after', hdocument', hlength'⟩ := exists_eq_append_of_mem_records hs
  -- the same text begins at both, and the recogniser has one answer to it
  have hrest := (List.append_inj (hdocument.symm.trans hdocument') (by omega)).2
  have hasText : match? .text (r.statement.text ++ after) = some r.statement.asText :=
    match?_eq_some_iff.mpr ⟨rfl, hvalid.asText hkind,
      text_asText hkind ▸ List.prefix_append _ _⟩
  have hself : match? .text (s.statement.text ++ after') = some s.statement :=
    match?_eq_some_iff.mpr ⟨hkind', hvalid', List.prefix_append _ _⟩
  rw [← hrest, hasText] at hself
  exact (Option.some.inj hself).symm

/-- A text in the place of a bar code gives no field. -/
theorem not_eligible_of_barcode {document : Text} {r s : Record}
    (hr : r ∈ records .barcode document) (hs : s ∈ records .text document)
    (hstart : r.start = s.start) : ¬ s.Eligible document := by
  rintro ⟨hreadable, hunclaimed⟩
  obtain ⟨p, hp⟩ := Option.isSome_iff_exists.mp hreadable
  have hposition : r.position? = some p := by
    rw [← hp, Record.position?, Record.position?, statement_eq_asText hr hs hstart]
    rfl
  exact hunclaimed (kind_valid_of_mem_records hs).1 p hp
    (List.mem_filterMap.mpr ⟨r, hr, hposition⟩)

theorem mem_records_of_mem_allRecords {document : Text} {r : Record} {kind : FieldKind}
    (hr : r ∈ allRecords document) (hkind : r.kind = kind) : r ∈ records kind document :=
  hkind ▸ mem_allRecords_iff.mp hr

/-- **In a well separated document the records that give fields have no character in common.** -/
theorem WellSeparated.eq_of_overlaps {document : Text} (hseparated : WellSeparated document)
    {r s : Record} (hr : r ∈ eligibleRecords document) (hs : s ∈ eligibleRecords document)
    (h : r.overlaps s = true) : r = s := by
  obtain ⟨hr, hreligible⟩ := mem_eligibleRecords_iff.mp hr
  obtain ⟨hs, hseligible⟩ := mem_eligibleRecords_iff.mp hs
  by_cases hkind : r.kind = s.kind
  · exact eq_of_overlaps_of_kind_eq hr hs hkind h
  · obtain ⟨hstart, ⟨hbarcode, htext⟩ | ⟨htext, hbarcode⟩⟩ := hseparated r hr s hs hkind h
    · exact absurd hseligible (not_eligible_of_barcode
        (mem_records_of_mem_allRecords hr hbarcode) (mem_records_of_mem_allRecords hs htext) hstart)
    · exact absurd hreligible (not_eligible_of_barcode
        (mem_records_of_mem_allRecords hs hbarcode) (mem_records_of_mem_allRecords hr htext)
        hstart.symm)

theorem WellSeparated.eq_of_start_eq {document : Text} (hseparated : WellSeparated document)
    {r s : Record} (hr : r ∈ eligibleRecords document) (hs : s ∈ eligibleRecords document)
    (h : r.start = s.start) : r = s := by
  refine hseparated.eq_of_overlaps hr hs ?_
  have := r.start_lt_stop
  have := s.start_lt_stop
  rw [Record.overlaps_iff]
  omega

end LabelTemplate
