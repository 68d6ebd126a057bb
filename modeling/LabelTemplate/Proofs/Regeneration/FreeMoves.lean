import LabelTemplate.Proofs.Regeneration.OneMove

/-!
# When moving one field costs no other

With one field moved, every statement is still there. Which of them give fields is another matter,
as a text gives none at a position that a bar code claims. A text that is moved to such a position
is lost. A bar code takes its claim with it: a text that stands at the old position by itself comes
to light, and one that stands at the new position goes. `MovesFreely` says that nothing of this
happens, and by `OneMoved.forall_eligible_iff` it asks for no more than that.
-/

namespace LabelTemplate.Regeneration

open Scan Statement

/--
A bar code claims the text whatever becomes of the one with the key: the text is a bar code itself,
or stands where another one is.
-/
def ClaimedAnyway (document : Text) (key : FieldKind × Int) (t : Record) : Prop :=
  ∃ b ∈ records .barcode document, b.start = t.start ∨ b.key ≠ key ∧ b.position? = t.position?

instance (document : Text) (key : FieldKind × Int) (t : Record) :
    Decidable (ClaimedAnyway document key t) :=
  inferInstanceAs (Decidable (∃ b ∈ records .barcode document, _ ∨ _ ∧ _))

/--
Moving the field neither hides a field nor brings one to light. A text must not go where a bar code
is. If a bar code moves, the texts at its old and at its new position must be claimed anyway.
-/
def MovesFreely (document : Text) (f : Field) (p : Position) : Prop :=
  (f.kind = .text → p ∉ claimedPositions document) ∧
    (f.kind = .barcode → p = f.position ∨ ∀ t ∈ records .text document,
      t.position? = some f.position ∨ t.position? = some p → ClaimedAnyway document f.key t)

instance (document : Text) (f : Field) (p : Position) : Decidable (MovesFreely document f p) :=
  inferInstanceAs (Decidable (_ ∧ _))

/-- The record gives a field after another one was moved; said of what it was before. -/
def EligibleAfter (document : Text) (r : Record) (p : Position) (q : Record) : Prop :=
  (movedPosition? r p q).isSome = true ∧ (q.kind = .text → ∀ a ∈ movedPosition? r p q,
    a ∉ (records .barcode document).filterMap (movedPosition? r p))

namespace OneMoved

variable {document document' : Text} {r q : Record} {s : Statement} {p : Position} {f : Field}

theorem mem_allRecords (h : OneMoved document document' r s p) : r ∈ allRecords document :=
  (mem_eligibleRecords_iff.mp h.mem).1

theorem eligible_iff (h : OneMoved document document' r s p) {q' : Record}
    (hq : RecordMoved r s p q q') : q'.Eligible document' ↔ EligibleAfter document r p q := by
  have hclaimed : claimedPositions document' =
      (records .barcode document).filterMap (movedPosition? r p) :=
    claimedPositions_eq_filterMap (h.forall₂_records .barcode) fun _ _ hb => hb.position
  rw [Record.Eligible, EligibleAfter, hq.position, hq.kind, hclaimed]

/-! ## Records at the place of the moved one -/

/-- What starts where the moved record does has its opener and its coordinates. -/
theorem of_start_eq (h : OneMoved document document' r s p) (hq : q ∈ allRecords document)
    (hstart : q.start = r.start) :
    q.kind.opener = r.kind.opener ∧ q.position? = r.position? := by
  obtain ⟨before, after, hdocument, -, hplace, hboundary⟩ := h.cut
  obtain ⟨before', after', hdocument', hplace'⟩ :=
    exists_eq_append_of_mem_records (mem_allRecords_iff.mp hq)
  obtain ⟨-, hrest⟩ := List.append_inj (hdocument'.symm.trans hdocument) (by omega)
  have hmatch : match? q.kind (r.statement.front ++ after) = some q.statement :=
    match?_eq_some_iff.mpr ⟨rfl, (kind_valid_of_mem_records (mem_allRecords_iff.mp hq)).2,
      hrest ▸ List.prefix_append _ after'⟩
  obtain ⟨hopener, hx, hy⟩ := opener_coordinates_of_match?_front h.valid_statement hboundary hmatch
  exact ⟨hopener, congrArg₂ _ hx hy⟩

/-- Statements with the same opener are of one kind, or a bar code and a text. -/
theorem barcode_text_of_opener_eq {kind kind' : FieldKind} (h : kind.opener = kind'.opener)
    (hne : kind ≠ kind') :
    kind = .barcode ∧ kind' = .text ∨ kind = .text ∧ kind' = .barcode := by
  cases kind <;> cases kind' <;>
    first | exact absurd rfl hne | exact absurd h (by decide) | simp

/-- Records of one kind do not start at one place. -/
theorem eq_of_start_eq_of_kind_eq (h : OneMoved document document' r s p)
    (hq : q ∈ allRecords document) (hstart : q.start = r.start) (hkind : q.kind = r.kind) :
    q = r := by
  refine eq_of_overlaps_of_kind_eq hq h.mem_allRecords hkind (Record.overlaps_iff.mpr ?_)
  have := q.start_lt_stop
  have := r.start_lt_stop
  omega

/-- **What starts where the moved record does is that record, or a moved bar code as a text.** -/
theorem eq_or_text_barcode (h : OneMoved document document' r s p) (hq : q ∈ allRecords document)
    (hstart : q.start = r.start) : q = r ∨ q.kind = .text ∧ r.kind = .barcode := by
  by_cases hkind : q.kind = r.kind
  · exact .inl (h.eq_of_start_eq_of_kind_eq hq hstart hkind)
  · rcases barcode_text_of_opener_eq (h.of_start_eq hq hstart).1 hkind with ⟨hq', hr'⟩ | hkinds
    · -- the bar code would claim the place of the moved text
      exact absurd (mem_eligibleRecords_iff.mp h.mem).2 (not_eligible_of_barcode
        (mem_records_of_mem_allRecords hq hq') (mem_records_of_mem_allRecords h.mem_allRecords hr')
        hstart)
    · exact .inr hkinds

/-- Fields are not found at the place of the moved one, but for itself. -/
theorem eq_of_start_eq (h : OneMoved document document' r s p) (hq : q ∈ eligibleRecords document)
    (hstart : q.start = r.start) : q = r := by
  obtain ⟨hq, heligible⟩ := mem_eligibleRecords_iff.mp hq
  rcases h.eq_or_text_barcode hq hstart with rfl | ⟨htext, hbarcode⟩
  · rfl
  · exact absurd heligible (not_eligible_of_barcode
      (mem_records_of_mem_allRecords h.mem_allRecords hbarcode)
      (mem_records_of_mem_allRecords hq htext) hstart.symm)

theorem start_eq_iff_of_barcode (h : OneMoved document document' r s p)
    (hq : q ∈ records .barcode document) : q.start = r.start ↔ q.key = r.key := by
  have hmem := mem_allRecords_of_mem_records hq
  constructor
  · intro hstart
    rcases h.eq_or_text_barcode hmem hstart with rfl | ⟨htext, -⟩
    · rfl
    · rw [(kind_valid_of_mem_records hq).1] at htext
      exact absurd htext (by decide)
  · intro hkey
    rw [List.inj_on_of_nodup_map (nodup_keys_allRecords document) hmem h.mem_allRecords hkey]

theorem isSome_movedPosition? (h : OneMoved document document' r s p)
    (hq : q ∈ allRecords document) :
    (movedPosition? r p q).isSome = true ↔ q.position?.isSome = true := by
  rw [movedPosition?]
  split
  · rename_i hstart
    rw [(h.of_start_eq hq hstart).2]
    exact iff_of_true rfl (mem_eligibleRecords_iff.mp h.mem).2.1
  · rfl

/-! ## Which records give fields afterwards -/

/-- Images and bar codes give fields as before. -/
theorem eligible_iff_of_ne_text (h : OneMoved document document' r s p)
    (hq : q ∈ allRecords document) (hkind : q.kind ≠ .text) :
    q.Eligible document ↔ EligibleAfter document r p q := by
  rw [Record.Eligible, EligibleAfter, h.isSome_movedPosition? hq]
  simp [hkind]

/-- Without a moved bar code the claims are as before. -/
theorem claims_of_ne_barcode (h : OneMoved document document' r s p) (hkind : r.kind ≠ .barcode) :
    (records .barcode document).filterMap (movedPosition? r p) = claimedPositions document := by
  refine List.filterMap_congr fun b hb => ?_
  rw [movedPosition?, if_neg]
  intro hstart
  have hkey := (h.start_eq_iff_of_barcode hb).mp hstart
  exact hkind ((congrArg Prod.fst hkey).symm.trans (kind_valid_of_mem_records hb).1)

/-- If no bar code is moved, all that can be lost is a moved text. -/
theorem forall_eligible_iff_of_ne_barcode (h : OneMoved document document' r s p)
    (hkind : r.kind ≠ .barcode) :
    (∀ q ∈ allRecords document, q.Eligible document ↔ EligibleAfter document r p q) ↔
      (r.kind = .text → p ∉ claimedPositions document) := by
  have hr := (mem_eligibleRecords_iff.mp h.mem).2
  have hself : EligibleAfter document r p r ↔ (r.kind = .text → p ∉ claimedPositions document) := by
    rw [EligibleAfter, h.claims_of_ne_barcode hkind, movedPosition?, if_pos rfl]
    simp
  constructor
  · exact fun hall => hself.mp ((hall r h.mem_allRecords).mp hr)
  · intro hfree q hq
    by_cases hstart : q.start = r.start
    · rcases h.eq_or_text_barcode hq hstart with rfl | ⟨-, hbarcode⟩
      · exact iff_of_true hr (hself.mpr hfree)
      · exact absurd hbarcode hkind
    · rw [Record.Eligible, EligibleAfter, h.claims_of_ne_barcode hkind, movedPosition?,
        if_neg hstart]

/-! ## A moved bar code -/

/-- A bar code other than the record is at the position. -/
def ClaimedBeside (document : Text) (r : Record) (a : Position) : Prop :=
  ∃ b ∈ records .barcode document, b.key ≠ r.key ∧ b.position? = some a

theorem mem_claimedPositions_iff (h : OneMoved document document' r s p) (hkind : r.kind = .barcode)
    (a : Position) :
    a ∈ claimedPositions document ↔ r.position? = some a ∨ ClaimedBeside document r a := by
  rw [claimedPositions, List.mem_filterMap]
  constructor
  · rintro ⟨b, hb, hposition⟩
    by_cases hkey : b.key = r.key
    · rw [List.inj_on_of_nodup_map (nodup_keys_allRecords document)
        (mem_allRecords_of_mem_records hb) h.mem_allRecords hkey] at hposition
      exact .inl hposition
    · exact .inr ⟨b, hb, hkey, hposition⟩
  · rintro (hposition | ⟨b, hb, -, hposition⟩)
    · exact ⟨r, mem_records_of_mem_allRecords h.mem_allRecords hkind, hposition⟩
    · exact ⟨b, hb, hposition⟩

theorem mem_claims_iff (h : OneMoved document document' r s p) (hkind : r.kind = .barcode)
    (a : Position) :
    a ∈ (records .barcode document).filterMap (movedPosition? r p) ↔
      p = a ∨ ClaimedBeside document r a := by
  rw [List.mem_filterMap]
  constructor
  · rintro ⟨b, hb, hposition⟩
    rw [movedPosition?] at hposition
    split at hposition
    · exact .inl (Option.some.inj hposition)
    · rename_i hstart
      exact .inr ⟨b, hb, mt (h.start_eq_iff_of_barcode hb).mpr hstart, hposition⟩
  · rintro (rfl | ⟨b, hb, hkey, hposition⟩)
    · exact ⟨r, mem_records_of_mem_allRecords h.mem_allRecords hkind, if_pos rfl⟩
    · refine ⟨b, hb, ?_⟩
      rwa [movedPosition?, if_neg (mt (h.start_eq_iff_of_barcode hb).mp hkey)]

/-- A text gives a field as before, unless its position is newly claimed or given free. -/
theorem eligible_iff_of_text (h : OneMoved document document' r s p) (hkind : r.kind = .barcode)
    {t : Record} (ht : t ∈ records .text document) :
    (t.Eligible document ↔ EligibleAfter document r p t) ↔
      r.position? = some p ∨ (t.position? = r.position? ∨ t.position? = some p →
        ClaimedAnyway document r.key t) := by
  have hrecord := mem_records_of_mem_allRecords h.mem_allRecords hkind
  have htext := (kind_valid_of_mem_records ht).1
  by_cases hstart : t.start = r.start
  · -- it is the moved bar code, read as a text, and gives no field anywhere
    have hafter : ¬ EligibleAfter document r p t := by
      intro hafter
      refine hafter.2 htext p ?_ ((h.mem_claims_iff hkind p).mpr (.inl rfl))
      rw [movedPosition?, if_pos hstart]
      rfl
    exact iff_of_true (iff_of_false (not_eligible_of_barcode hrecord ht hstart.symm) hafter)
      (.inr fun _ => ⟨r, hrecord, .inl hstart.symm⟩)
  · obtain ⟨origin, horigin⟩ := Option.isSome_iff_exists.mp (mem_eligibleRecords_iff.mp h.mem).2.1
    rw [Record.Eligible, EligibleAfter, movedPosition?, if_neg hstart, horigin]
    cases ht' : t.position? with
    | none => simp
    | some a =>
        have hbeside : ClaimedAnyway document r.key t ↔ ClaimedBeside document r a := by
          rw [ClaimedAnyway, ht']
          constructor
          · rintro ⟨b, hb, hplace | hplace⟩
            · refine ⟨b, hb, fun hkey => hstart ?_, ?_⟩
              · rw [← hplace, (h.start_eq_iff_of_barcode hb).mpr hkey]
              · rw [← ht', Record.position?, Record.position?, statement_eq_asText hb ht hplace]
                rfl
            · exact ⟨b, hb, hplace⟩
          · rintro ⟨b, hb, hplace⟩
            exact ⟨b, hb, .inr hplace⟩
        have hbefore := h.mem_claimedPositions_iff hkind a
        rw [horigin, Option.some.injEq] at hbefore
        rw [hbeside]
        simp only [htext, Option.isSome_some, Option.mem_def, Option.some.injEq, true_and,
          forall_const, forall_eq', hbefore, h.mem_claims_iff hkind a]
        grind

/-- If a bar code is moved, it matters which texts are at its old and at its new position. -/
theorem forall_eligible_iff_of_barcode (h : OneMoved document document' r s p)
    (hkind : r.kind = .barcode) :
    (∀ q ∈ allRecords document, q.Eligible document ↔ EligibleAfter document r p q) ↔
      (r.position? = some p ∨ ∀ t ∈ records .text document,
        t.position? = r.position? ∨ t.position? = some p → ClaimedAnyway document r.key t) := by
  constructor
  · intro hall
    refine or_iff_not_imp_left.mpr fun hmoved t ht => ?_
    have htext := (h.eligible_iff_of_text hkind ht).mp (hall t (mem_allRecords_of_mem_records ht))
    exact htext.resolve_left hmoved
  · intro htexts q hq
    by_cases htext : q.kind = .text
    · have ht := mem_records_of_mem_allRecords hq htext
      exact (h.eligible_iff_of_text hkind ht).mpr (htexts.imp_right fun hall => hall q ht)
    · exact h.eligible_iff_of_ne_text hq htext

/-- **Each record gives a field as it did exactly if the field moves freely.** -/
theorem forall_eligible_iff (h : OneMoved document document' r s p) (hat : FoundAt r f) :
    (∀ q ∈ allRecords document, q.Eligible document ↔ EligibleAfter document r p q) ↔
      MovesFreely document f p := by
  obtain ⟨number, origin, horigin, rfl⟩ := hat
  show _ ↔ (r.kind = .text → _) ∧ (r.kind = .barcode → p = origin ∨ ∀ t ∈ records .text document,
    t.position? = some origin ∨ t.position? = some p → ClaimedAnyway document r.key t)
  by_cases hkind : r.kind = .barcode
  · rw [h.forall_eligible_iff_of_barcode hkind, horigin, Option.some.injEq]
    simp [hkind, eq_comm]
  · rw [h.forall_eligible_iff_of_ne_barcode hkind]
    simp [hkind]

end OneMoved

end LabelTemplate.Regeneration
