import LabelTemplate.Proofs.Extraction.Eligible

/-!
# Documents with corresponding statements

When a document is written anew, its statements often correspond one to one to those it had. What
is known of the pairs is passed on here, from what the scans found to the records, and from the
records that give fields to the fields. In between stands the question which records give fields,
and that depends on all bar codes: it has the same answer for both documents if positions stay.
-/

namespace LabelTemplate

open Scan Statement

variable {t u : Text} {R : Record → Record → Prop}

/-- Records are numbered alike if what the scans found corresponds. -/
theorem forall₂_records_of_hits {kind : FieldKind} {S : Nat × Statement → Nat × Statement → Prop}
    (h : List.Forall₂ S (hits (recognise kind) t) (hits (recognise kind) u)) :
    List.Forall₂ (fun r r' => r'.ordinal = r.ordinal ∧
      S (r.start, r.statement) (r'.start, r'.statement)) (records kind t) (records kind u) := by
  rw [records, records]
  generalize 0 = number
  generalize hits (recognise kind) t = before at h ⊢
  generalize hits (recognise kind) u = after at h ⊢
  induction h generalizing number with
  | nil => exact .nil
  | cons hhead _ ih => exact .cons ⟨rfl, hhead⟩ (ih (number + 1))

theorem forall₂_records_of_found {kind : FieldKind} {S : Statement → Statement → Prop}
    (h : List.Forall₂ S (found (recognise kind) t) (found (recognise kind) u)) :
    List.Forall₂ (fun r r' => r'.ordinal = r.ordinal ∧ S r.statement r'.statement)
      (records kind t) (records kind u) := by
  rw [found, found, List.forall₂_map_left_iff, List.forall₂_map_right_iff] at h
  exact forall₂_records_of_hits h

theorem forall₂_allRecords_of_records
    (h : ∀ kind, List.Forall₂ R (records kind t) (records kind u)) :
    List.Forall₂ R (allRecords t) (allRecords u) := by
  rw [allRecords, allRecords]
  induction FieldKind.searchOrder with
  | nil => exact .nil
  | cons kind kinds ih => exact List.rel_append (h kind) ih

/-- Where the bar codes are, if it is known of each where it is now. -/
theorem claimedPositions_eq_filterMap {position : Record → Option Position}
    (h : List.Forall₂ R (records .barcode t) (records .barcode u))
    (hposition : ∀ r r', R r r' → r'.position? = position r) :
    claimedPositions u = (records .barcode t).filterMap position := by
  have hmap := map_eq_map_of_forall₂ (h.imp fun r r' hr => (hposition r r' hr).symm)
  have hfilter := congrArg (List.filterMap id) hmap
  rw [List.filterMap_map, List.filterMap_map] at hfilter
  exact hfilter.symm

/-- **Where positions stay, the same records give fields.** -/
theorem forall₂_eligibleRecords_of_records
    (h : ∀ kind, List.Forall₂ R (records kind t) (records kind u))
    (hkind : ∀ r r', R r r' → r'.kind = r.kind)
    (hposition : ∀ r r', R r r' → r'.position? = r.position?) :
    List.Forall₂ R (eligibleRecords t) (eligibleRecords u) := by
  refine List.rel_filter (fun r r' hr => ?_) (forall₂_allRecords_of_records h)
  show decide (r.Eligible t) = true ↔ decide (r'.Eligible u) = true
  rw [decide_eq_true_iff, decide_eq_true_iff, Record.Eligible, Record.Eligible, hkind r r' hr,
    hposition r r' hr, claimedPositions_eq_filterMap (h .barcode) hposition, claimedPositions]

/-- The fields of two documents correspond as the records do that they are found at. -/
theorem forall₂_fields_of_eligibleRecords
    (h : List.Forall₂ R (eligibleRecords t) (eligibleRecords u)) :
    List.Forall₂ (fun f f' => ∃ r ∈ eligibleRecords t, ∃ r', R r r' ∧ FoundAt r f ∧ FoundAt r' f')
      (Extraction.fields t) (Extraction.fields u) := by
  have hfound := forall₂_fields t
  have hfound' := forall₂_fields u
  have hlength := hfound.length_eq
  have hlength' := hfound'.length_eq
  have hlengths := h.length_eq
  refine List.forall₂_iff_get.mpr ⟨by omega, fun i hi hi' => ?_⟩
  exact ⟨_, List.get_mem _ ⟨i, by omega⟩, _, h.get (by omega) (by omega),
    hfound.get (by omega) hi, hfound'.get (by omega) hi'⟩

/-- The warnings of two documents read alike if the records with unreadable coordinates do. -/
theorem map_message_warnings_of_forall₂ (h : List.Forall₂ R (allRecords t) (allRecords u))
    (hposition : ∀ r r', R r r' → r'.position? = r.position?)
    (hmessage : ∀ r r', R r r' → (Warning.unreadableCoordinates r').message =
      (Warning.unreadableCoordinates r).message) :
    (Extraction.warnings u).map Warning.message = (Extraction.warnings t).map Warning.message := by
  rw [extraction_warnings_eq, extraction_warnings_eq, List.map_map, List.map_map]
  refine (map_eq_map_of_forall₂ ?_).symm
  refine (List.rel_filter (fun r r' hr => ?_) h).imp fun r r' hr => (hmessage r r' hr).symm
  show r.position?.isNone = true ↔ r'.position?.isNone = true
  rw [hposition r r' hr]

end LabelTemplate
