import LabelTemplate.Proofs.Extraction.Eligible
import LabelTemplate.Regeneration

/-!
# How a record finds its field again

A record looks for its field by value, and by number where several fields of its kind
share the value. Both searches are right for the same reason: the field that was found
at the record is among the fields, it has the record's value, and no other field has
the record's kind and number. Editing touches none of this, and neither does the order
in which the fields are given.
-/

namespace LabelTemplate

/-! ## Editing -/

namespace Field

/-- One step of editing a field. -/
inductive Edit where
  /-- Give it another value. -/
  | value (value : Text)
  /-- Move it. -/
  | position (position : Position)
  /-- Choose its graphic for embedding, or not. -/
  | embedding (selected : Bool)
deriving DecidableEq, Repr

/-- The field after one step of editing. -/
def apply (f : Field) : Edit → Field
  | .value value => f.withValue value
  | .position position => f.withPosition position
  | .embedding selected => f.withEmbedding selected

/-- The field after several steps of editing. -/
def edited (f : Field) (edits : List Edit) : Field := edits.foldl apply f

/-- Editing keeps what a field is found by. -/
theorem key_templateValue_edited (f : Field) (edits : List Edit) :
    (f.edited edits).key = f.key ∧ (f.edited edits).templateValue = f.templateValue := by
  induction edits generalizing f with
  | nil => exact ⟨rfl, rfl⟩
  | cons e edits ih =>
      obtain ⟨hkey, hvalue⟩ := ih (f.apply e)
      rw [edited, List.foldl_cons, ← edited, hkey, hvalue]
      cases e <;> exact ⟨rfl, rfl⟩

end Field

theorem FoundAt.value_eq {r : Record} {f : Field} (h : FoundAt r f) :
    f.templateValue = r.value ∧ f.currentValue = r.value := by
  obtain ⟨number, p, _, rfl⟩ := h
  exact ⟨rfl, rfl⟩

namespace Regeneration

/-! ## Looking up a field -/

/-- The only element of a list that satisfies a condition is what a filter leaves at its end. -/
theorem getLast?_filter_eq_some {α : Type} {l : List α} {p : α → Bool} {a : α} (ha : a ∈ l)
    (hp : p a = true) (hunique : ∀ b ∈ l, p b = true → b = a) :
    (l.filter p).getLast? = some a := by
  have hmem : a ∈ l.filter p := List.mem_filter.mpr ⟨ha, hp⟩
  have hne : l.filter p ≠ [] := List.ne_nil_of_mem hmem
  rw [List.getLast?_eq_some_getLast hne]
  have hlast := List.mem_filter.mp (List.getLast_mem hne)
  rw [hunique _ hlast.1 hlast.2]

theorem find?_eq_some_of_not_ambiguous {fields : List Field} {f : Field} (hf : f ∈ fields)
    (h : ambiguous fields f.templateValue = false) :
    fields.find? (·.templateValue == f.templateValue) = some f := by
  have hmem : f ∈ fields.filter (·.templateValue == f.templateValue) :=
    List.mem_filter.mpr ⟨hf, beq_self_eq_true _⟩
  rw [← List.head?_filter]
  cases hl : fields.filter (·.templateValue == f.templateValue) with
  | nil => rw [hl] at hmem; exact absurd hmem (by simp)
  | cons g gs =>
      rw [ambiguous, hl] at h
      rw [hl] at hmem
      obtain rfl : gs = [] := by simpa using h
      rw [List.mem_singleton.mp hmem]
      rfl

/--
**A record finds the field with its value and number, if no other field has its number.**

If the value is ambiguous the number decides; if not, the value has only one field.
-/
theorem resolve?_eq_some {fields : List Field} {r : Record} {f : Field} (hf : f ∈ fields)
    (hvalue : f.templateValue = r.value) (hordinal : f.sourceOrdinal = r.ordinal)
    (hunique : ∀ g ∈ fields, g.sourceOrdinal = r.ordinal → g = f) :
    resolve? fields r = some f := by
  unfold resolve?
  rw [← hvalue]
  split
  · -- the search by number: no other field of the kind has this one
    rename_i hambiguous
    have hlast : byOrdinal? fields r.ordinal = some f := by
      refine getLast?_filter_eq_some hf (by simp [hambiguous, hordinal]) fun g hg hp => ?_
      simp only [Bool.and_eq_true, beq_iff_eq] at hp
      exact hunique g hg hp.2
    rw [hlast]
    simp
  · -- the search by value: the field is the only one that has it
    rename_i hambiguous
    exact find?_eq_some_of_not_ambiguous hf (by simpa using hambiguous)

/-- Among fields with different keys a record finds the one with its own key. -/
theorem resolve?_eq_some_of_key {fields : List Field} (hkeys : (fields.map Field.key).Nodup)
    {r : Record} {f : Field} (hf : f ∈ fields) (hkey : f.key = r.key)
    (hvalue : f.templateValue = r.value) :
    resolve? (fields.filter (·.kind == r.kind)) r = some f := by
  obtain ⟨hkind, hordinal⟩ := Prod.mk.inj hkey
  refine resolve?_eq_some (List.mem_filter.mpr ⟨hf, by simpa using hkind⟩) hvalue hordinal ?_
  intro g hg hg'
  obtain ⟨hmem, hgkind⟩ := List.mem_filter.mp hg
  refine List.inj_on_of_nodup_map hkeys hmem hf ?_
  rw [hkey, Field.key, Record.key, hg', beq_iff_eq.mp hgkind]

theorem mem_of_resolve?_eq_some {fields : List Field} {r : Record} {f : Field}
    (h : resolve? fields r = some f) : f ∈ fields := by
  unfold resolve? at h
  split at h
  · obtain ⟨h, _⟩ := Option.filter_eq_some_iff.mp h
    exact (List.mem_filter.mp (List.mem_of_getLast? h)).1
  · exact List.mem_of_find?_eq_some h

/-! ## Changed records -/

theorem of_modifiedField?_eq_some {fields : List Field} {r : Record} {f : Field}
    (h : modifiedField? fields r = some f) :
    f ∈ fields ∧ f.kind = r.kind ∧ f.isModified = true := by
  unfold modifiedField? at h
  split at h
  · exact absurd h (by simp)
  · obtain ⟨h, hmodified⟩ := Option.filter_eq_some_iff.mp h
    obtain ⟨hmem, hkind⟩ := List.mem_filter.mp (mem_of_resolve?_eq_some h)
    exact ⟨hmem, beq_iff_eq.mp hkind, hmodified⟩

/-- The records that are written again, in the order in which they are considered. -/
def changedRecords (document : Text) (fields : List Field) : List Record :=
  (editableRecords document).filter fun r => (modifiedField? fields r).isSome

/-- A changed record is one that a field was found at. -/
theorem mem_changedRecords_iff {document : Text} {fields : List Field} {r : Record} :
    r ∈ changedRecords document fields ↔
      r ∈ eligibleRecords document ∧ (modifiedField? fields r).isSome = true := by
  rw [changedRecords, editableRecords_eq, List.mem_filter, List.mem_filter, unclaimed_iff,
    mem_eligibleRecords_iff, Record.Eligible]
  constructor
  · rintro ⟨⟨hr, hunclaimed⟩, hmodified⟩
    refine ⟨⟨hr, ?_, hunclaimed⟩, hmodified⟩
    cases hp : r.position? with
    | some p => rfl
    | none => simp [modifiedField?, hp] at hmodified
  · rintro ⟨⟨hr, _, hunclaimed⟩, hmodified⟩
    exact ⟨⟨hr, hunclaimed⟩, hmodified⟩

theorem nodup_changedRecords (document : Text) (fields : List Field) :
    (changedRecords document fields).Nodup := by
  rw [changedRecords, editableRecords_eq]
  exact ((nodup_allRecords document).filter _).filter _

theorem modifiedField?_of_mem_eligibleRecords {document : Text} {r : Record}
    (hr : r ∈ eligibleRecords document) (fields : List Field) :
    modifiedField? fields r =
      (resolve? (fields.filter (·.kind == r.kind)) r).filter (·.isModified) := by
  obtain ⟨p, hp⟩ := Option.isSome_iff_exists.mp (mem_eligibleRecords_iff.mp hr).2.1
  simp [modifiedField?, hp]

/-- The replacements for a document come from its eligible records and from no other. -/
theorem replacements_eq_filterMap (remap : Bool) (document : Text) (fields : List Field) :
    replacements remap document fields =
      (eligibleRecords document).filterMap (replacement? remap fields) := by
  rw [replacements, editableRecords_eq, eligibleRecords, List.filterMap_filter,
    List.filterMap_filter]
  congr 1
  funext r
  cases hp : r.position? with
  | none => simp [replacement?, modifiedField?, hp]
  | some p => rw [unclaimed_eq_eligible hp]

/-! ## Fields find their records -/

/--
**Edits bind to the statement they came from.**

The fields of a template, edited in any way and given in any order, have the keys of the
eligible records, each once. Each eligible record finds the field that was found
there, whatever values the fields share; a record whose coordinates cannot be read gives a
warning, and neither it nor a text in the place of a bar code is ever written again: all
replacements come from eligible records.
-/
theorem fields_bind_to_their_records {document : Text} {edits : Field → List Field.Edit}
    {fields : List Field}
    (hfields : fields.Perm ((Extraction.fields document).map fun f => f.edited (edits f))) :
    (fields.map Field.key).Nodup ∧
      (fields.map Field.key).Perm ((eligibleRecords document).map Record.key) ∧
      (∀ r ∈ eligibleRecords document, ∃ f ∈ Extraction.fields document, FoundAt r f ∧
        resolve? (fields.filter (·.kind == r.kind)) r = some (f.edited (edits f))) ∧
      Extraction.warnings document =
        ((allRecords document).filter (·.position?.isNone)).map .unreadableCoordinates ∧
      (∀ r ∈ allRecords document, ¬ r.Eligible document → r ∉ changedRecords document fields) ∧
      ∀ remap, replacements remap document fields =
        (eligibleRecords document).filterMap (replacement? remap fields) := by
  have hperm : (fields.map Field.key).Perm ((eligibleRecords document).map Record.key) := by
    refine (hfields.map Field.key).trans (List.Perm.of_eq ?_)
    rw [List.map_map, ← map_key_fields]
    exact List.map_congr_left fun f _ => (f.key_templateValue_edited (edits f)).1
  have hnodup : (fields.map Field.key).Nodup :=
    hperm.nodup_iff.mpr (nodup_keys_eligibleRecords document)
  refine ⟨hnodup, hperm, fun r hr => ?_, extraction_warnings_eq document,
    fun r _ hno hmem => ?_, fun remap => replacements_eq_filterMap remap document fields⟩
  · obtain ⟨f, hf, hat⟩ := exists_foundAt hr
    have hmem : f.edited (edits f) ∈ fields :=
      hfields.mem_iff.mpr (List.mem_map.mpr ⟨f, hf, rfl⟩)
    obtain ⟨hkey, hvalue⟩ := f.key_templateValue_edited (edits f)
    exact ⟨f, hf, hat, resolve?_eq_some_of_key hnodup hmem (hkey.trans hat.key_eq)
      (hvalue.trans hat.value_eq.1)⟩
  · exact hno (mem_eligibleRecords_iff.mp (mem_changedRecords_iff.mp hmem).1).2

/-- Two texts with the same value, edited to different ones and given in reverse. -/
theorem fields_bind_to_their_records_of_equal_values :
    let document := "^FT1,2^FDa^FS^FT3,4^FDa^FS".toList
    let edits : Field → List Field.Edit := fun f =>
      [.value (if f.sourceOrdinal = 0 then ['b'] else ['c']), .position ⟨7, 8⟩]
    let found := (Extraction.fields document).map fun f => f.edited (edits f)
    (eligibleRecords document).length = 2 ∧ found.reverse.Perm found ∧
      ∀ r ∈ eligibleRecords document, ∃ f ∈ Extraction.fields document, FoundAt r f ∧
        resolve? (found.reverse.filter (·.kind == r.kind)) r = some (f.edited (edits f)) := by
  intro document edits found
  exact ⟨by decide, List.reverse_perm found,
    (fields_bind_to_their_records (List.reverse_perm found)).2.2.1⟩

end Regeneration

end LabelTemplate
