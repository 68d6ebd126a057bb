import LabelTemplate.Proofs.Regeneration.Binding

/-!
# What a regenerated document is made of

`Splices` says without any arithmetic on cuts what it means that some records of a
text are written again and everything else stays. `regenerate` is shown to do that
for the records that are kept, in whatever order the three scans delivered them: kept
records have no character in common, so in the order of their places one ends before
the next starts, and each of them stands in what is left of the text.
-/

namespace LabelTemplate.Regeneration

/-! ## Specification -/

/-- The records kept of some that come after others, if each that overlaps one kept is dropped. -/
def keptAfter (kept : List Record) : List Record → List Record
  | [] => []
  | r :: rs =>
    if kept.any (r.overlaps ·) then keptAfter kept rs else r :: keptAfter (r :: kept) rs

/-- The records kept if each that overlaps one kept before it is dropped. -/
def keptGreedily (rs : List Record) : List Record := keptAfter [] rs

/-- What is written at the place of a record. -/
def rewritten (remap : Bool) (fields : List Field) (r : Record) : Text :=
  match modifiedField? fields r with
  | some f => r.statement.render (changeOf remap r.statement f)
  | none => r.statement.text

/--
A text that starts at an offset, records that stand in it one behind the other, and the
text with these records written again and everything between them as it was.
-/
inductive Splices (write : Record → Text) : Nat → Text → List Record → Text → Prop where
  | done (offset : Nat) (t : Text) : Splices write offset t [] t
  | next {offset : Nat} {gap rest out : Text} {r : Record} {rs : List Record} :
      r.start = offset + gap.length → Splices write r.stop rest rs out →
      Splices write offset (gap ++ (r.statement.text ++ rest)) (r :: rs) (gap ++ (write r ++ out))

/-! ## Records and their replacements -/

/-- The replacement for a record. -/
def replacementOf (remap : Bool) (fields : List Field) (r : Record) : Replacement :=
  { start := r.start, stop := r.stop, text := rewritten remap fields r }

theorem replacements_eq (remap : Bool) (document : Text) (fields : List Field) :
    replacements remap document fields =
      (changedRecords document fields).map (replacementOf remap fields) := by
  rw [replacements, changedRecords, ← List.filterMap_eq_map, List.filterMap_filter]
  congr 1
  funext r
  cases h : modifiedField? fields r <;> simp [replacement?, replacementOf, rewritten, h]

theorem selectFrom_map (remap : Bool) (fields : List Field) (kept rs : List Record) :
    (selectFrom (kept.map (replacementOf remap fields)) (rs.map (replacementOf remap fields))).1 =
        (keptAfter kept rs).map (replacementOf remap fields) ∧
      (selectFrom (kept.map (replacementOf remap fields))
        (rs.map (replacementOf remap fields))).2.length + (keptAfter kept rs).length =
          rs.length := by
  induction rs generalizing kept with
  | nil => exact ⟨rfl, rfl⟩
  | cons r rs ih =>
      have hany : (kept.map (replacementOf remap fields)).any
          ((replacementOf remap fields r).overlaps ·) = kept.any (r.overlaps ·) := by
        rw [List.any_map]
        rfl
      rw [List.map_cons, selectFrom, keptAfter, hany]
      split
      · obtain ⟨haccepted, hdropped⟩ := ih kept
        exact ⟨haccepted, by simp only [List.length_cons]; omega⟩
      · obtain ⟨haccepted, hdropped⟩ := ih (r :: kept)
        rw [List.map_cons] at haccepted hdropped
        exact ⟨by rw [List.map_cons, ← haccepted], by simp only [List.length_cons]; omega⟩

/-! ## Kept records -/

theorem keptAfter_sublist (kept rs : List Record) : (keptAfter kept rs).Sublist rs := by
  induction rs generalizing kept with
  | nil => exact List.Sublist.refl _
  | cons r rs ih =>
      rw [keptAfter]
      split
      · exact (ih kept).cons r
      · exact (ih (r :: kept)).cons_cons r

theorem pairwise_keptAfter (kept rs : List Record) :
    (keptAfter kept rs).Pairwise (fun r s => r.overlaps s = false) ∧
      ∀ r ∈ keptAfter kept rs, ∀ s ∈ kept, r.overlaps s = false := by
  induction rs generalizing kept with
  | nil => exact ⟨List.Pairwise.nil, fun r hr => absurd hr (by simp [keptAfter])⟩
  | cons r rs ih =>
      rw [keptAfter]
      split
      · exact ih kept
      · rename_i hno
        obtain ⟨hpairs, hkept⟩ := ih (r :: kept)
        refine ⟨List.Pairwise.cons (fun s hs => ?_) hpairs, fun s hs k hk => ?_⟩
        · rw [Record.overlaps_comm]
          exact hkept s hs r List.mem_cons_self
        · rcases List.mem_cons.mp hs with rfl | hs
          · simp only [List.any_eq_true, not_exists, not_and, Bool.not_eq_true] at hno
            exact hno k hk
          · exact hkept s hs k (List.mem_cons_of_mem r hk)

/-- All records are kept if no two of them overlap. -/
theorem keptAfter_eq_self {kept rs : List Record}
    (hrs : rs.Pairwise fun r s => r.overlaps s = false)
    (hkept : ∀ r ∈ rs, ∀ s ∈ kept, r.overlaps s = false) : keptAfter kept rs = rs := by
  induction rs generalizing kept with
  | nil => rfl
  | cons r rs ih =>
      obtain ⟨hr, hrs⟩ := List.pairwise_cons.mp hrs
      rw [keptAfter, if_neg, ih hrs]
      · intro s hs k hk
        rcases List.mem_cons.mp hk with rfl | hk
        · rw [Record.overlaps_comm]
          exact hr s hs
        · exact hkept s (List.mem_cons_of_mem r hs) k hk
      · simp only [List.any_eq_true, not_exists, not_and, Bool.not_eq_true]
        exact hkept r List.mem_cons_self

/-! ## Kept records in the order of their places -/

/-- The records in the order in which they stand in the document. -/
def inPlaceOrder (rs : List Record) : List Record := rs.mergeSort fun r s => r.start ≤ s.start

theorem map_inPlaceOrder (remap : Bool) (fields : List Field) (rs : List Record) :
    (inPlaceOrder rs).map (replacementOf remap fields) =
      (rs.map (replacementOf remap fields)).mergeSort fun r s => r.start ≤ s.start :=
  List.map_mergeSort fun _ _ _ _ => rfl

/-- Records without a common character stand one behind the other. -/
theorem pairwise_inPlaceOrder {rs : List Record}
    (h : rs.Pairwise fun r s => r.overlaps s = false) :
    (inPlaceOrder rs).Pairwise fun r s => r.stop ≤ s.start := by
  have hsorted : (inPlaceOrder rs).Pairwise fun r s => decide (r.start ≤ s.start) = true :=
    List.pairwise_mergeSort (fun a b c hab hbc => by simp at hab hbc ⊢; omega)
      (fun a b => by simp; omega) rs
  have hdisjoint : (inPlaceOrder rs).Pairwise fun r s => r.overlaps s = false :=
    (List.mergeSort_perm rs _).pairwise_iff
      (fun {r s} hrs => Record.overlaps_comm r s ▸ hrs) |>.mpr h
  refine (hsorted.and hdisjoint).imp fun {r s} ⟨hle, hno⟩ => ?_
  have := s.start_lt_stop
  simp only [decide_eq_true_eq] at hle
  rw [← Bool.not_eq_true, Record.overlaps_iff] at hno
  omega

/-! ## The splice -/

/-- Does the record's statement stand in this part of the document? -/
def StandsIn (offset : Nat) (t : Text) (r : Record) : Prop :=
  ∃ gap rest, t = gap ++ (r.statement.text ++ rest) ∧ r.start = offset + gap.length

theorem standsIn_of_mem_allRecords {document : Text} {r : Record} (h : r ∈ allRecords document) :
    StandsIn 0 document r := by
  obtain ⟨before, after, hdocument, hstart⟩ :=
    exists_eq_append_of_mem_records (mem_allRecords_iff.mp h)
  exact ⟨before, after, hdocument, by omega⟩

/-- What stands in a text behind a record stands in the rest of it. -/
theorem StandsIn.of_stop_le {offset : Nat} {gap rest : Text} {r s : Record}
    (hr : r.start = offset + gap.length)
    (hs : StandsIn offset (gap ++ (r.statement.text ++ rest)) s) (h : r.stop ≤ s.start) :
    StandsIn r.stop rest s := by
  obtain ⟨gap', rest', heq, hs⟩ := hs
  have hlength := r.statement.length_text
  rw [← List.append_assoc] at heq
  simp only [Record.stop] at h ⊢
  rcases List.append_eq_append_iff.mp heq with ⟨mid, rfl, hrest⟩ | ⟨more, hmore, hrest⟩
  · exact ⟨mid, rest', hrest, by simp only [List.length_append] at hs; omega⟩
  · -- the second record would start inside the first
    have hnil : more.length = 0 := by
      have := congrArg List.length hmore
      simp only [List.length_append] at this
      omega
    rw [List.length_eq_zero_iff] at hnil
    subst hnil
    have := congrArg List.length hmore
    simp only [List.length_append, List.length_nil] at this
    exact ⟨[], rest', by simpa using hrest.symm, by simp only [List.length_nil]; omega⟩

/-- **Putting in the replacements of some records writes these and leaves the rest.** -/
theorem splices_spliceFrom {remap : Bool} {fields : List Field} {offset : Nat} {t : Text}
    {rs : List Record} (hrs : rs.Pairwise fun r s => r.stop ≤ s.start)
    (hin : ∀ r ∈ rs, StandsIn offset t r) :
    Splices (rewritten remap fields) offset t rs
      (spliceFrom offset t (rs.map (replacementOf remap fields))) := by
  induction rs generalizing offset t with
  | nil => exact .done offset t
  | cons r rs ih =>
      obtain ⟨hr, hrs⟩ := List.pairwise_cons.mp hrs
      obtain ⟨gap, rest, rfl, hstart⟩ := hin r List.mem_cons_self
      have hrest := ih hrs fun s hs =>
        (hin s (List.mem_cons_of_mem r hs)).of_stop_le hstart (hr s hs)
      -- the cuts of the model are where `gap` and the statement end
      have htake : (gap ++ (r.statement.text ++ rest)).take (r.start - offset) = gap := by
        rw [hstart, Nat.add_sub_cancel_left, List.take_left]
      have hdrop : (gap ++ (r.statement.text ++ rest)).drop (r.stop - offset) = rest := by
        have hstop : r.stop - offset = (gap ++ r.statement.text).length := by
          rw [Record.stop, ← r.statement.length_text, List.length_append]
          omega
        rw [hstop, ← List.append_assoc, List.drop_left]
      rw [List.map_cons, spliceFrom]
      simp only [replacementOf, htake, hdrop, List.append_assoc]
      exact .next hstart hrest

theorem mem_allRecords_of_mem_changedRecords {document : Text} {fields : List Field} {r : Record}
    (h : r ∈ changedRecords document fields) : r ∈ allRecords document :=
  (mem_eligibleRecords_iff.mp (mem_changedRecords_iff.mp h).1).1

theorem splices_regenerate (remap : Bool) {document : Text} {fields : List Field}
    (hdocument : document ≠ []) (hfields : fields ≠ []) :
    Splices (rewritten remap fields) 0 document
      (inPlaceOrder (keptGreedily (changedRecords document fields)))
      (regenerate remap document fields) := by
  have hempty : (document.isEmpty || fields.isEmpty) = false := by simp [hdocument, hfields]
  have hselect := (selectFrom_map remap fields [] (changedRecords document fields)).1
  rw [regenerate, hempty, if_neg (by simp), splice, select, replacements_eq, ← List.map_nil,
    hselect, ← map_inPlaceOrder]
  refine splices_spliceFrom (pairwise_inPlaceOrder (pairwise_keptAfter _ _).1) fun r hr => ?_
  have hmem := (List.mergeSort_perm _ _).mem_iff.mp hr
  exact standsIn_of_mem_allRecords
    (mem_allRecords_of_mem_changedRecords ((keptAfter_sublist _ _).subset hmem))

end LabelTemplate.Regeneration
