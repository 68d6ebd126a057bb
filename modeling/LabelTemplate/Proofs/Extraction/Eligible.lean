import LabelTemplate.Extraction
import LabelTemplate.Proofs.Statement.Records
import Mathlib.Data.List.Forall2
import Mathlib.Data.List.Nodup

/-!
# Which records give fields

A record gives a field if its position can be read and, for a text, no bar code
claims it. The model filters twice, once for the claims and once for the position;
here both are one condition, `Record.Eligible`, on the records of all three scans.

A record's kind and number name it among all records of a document. That is the key
by which a field can be told apart from every other, whatever its value.
-/

namespace LabelTemplate

/-- The records of all kinds, in the order in which a template is searched for them. -/
def allRecords (document : Text) : List Record :=
  FieldKind.searchOrder.flatMap fun kind => records kind document

/-- The kind and the number of a record. -/
def Record.key (r : Record) : FieldKind × Int := (r.kind, r.ordinal)

/-- The kind and the number of the statement that a field was found in. -/
def Field.key (f : Field) : FieldKind × Int := (f.kind, f.sourceOrdinal)

/-- The record's coordinates can be read, and if it is a text, no bar code is at its place. -/
def Record.Eligible (document : Text) (r : Record) : Prop :=
  r.position?.isSome = true ∧ (r.kind = .text → ∀ p ∈ r.position?, p ∉ claimedPositions document)

instance (document : Text) (r : Record) : Decidable (r.Eligible document) :=
  inferInstanceAs (Decidable (_ ∧ _))

/-- The records that give fields. -/
def eligibleRecords (document : Text) : List Record :=
  (allRecords document).filter fun r => r.Eligible document

/-! ## All records -/

theorem mem_allRecords_iff {document : Text} {r : Record} :
    r ∈ allRecords document ↔ r ∈ records r.kind document := by
  rw [allRecords, List.mem_flatMap]
  constructor
  · rintro ⟨kind, _, h⟩
    rwa [(kind_valid_of_mem_records h).1]
  · exact fun h => ⟨r.kind, by cases r.kind <;> decide, h⟩

theorem mem_allRecords_of_mem_records {kind : FieldKind} {document : Text} {r : Record}
    (h : r ∈ records kind document) : r ∈ allRecords document := by
  rw [mem_allRecords_iff, (kind_valid_of_mem_records h).1]
  exact h

theorem mem_eligibleRecords_iff {document : Text} {r : Record} :
    r ∈ eligibleRecords document ↔ r ∈ allRecords document ∧ r.Eligible document := by
  simp [eligibleRecords]

/-- **No two records have the same kind and number.** -/
theorem nodup_keys_allRecords (document : Text) :
    ((allRecords document).map Record.key).Nodup := by
  refine List.pairwise_map.mpr (List.pairwise_flatMap.mpr ⟨fun kind _ => ?_, ?_⟩)
  · -- numbers go up within a kind
    refine (pairwise_records kind document).imp fun h heq => ?_
    have := congrArg Prod.snd heq
    simp only [Record.key] at this
    omega
  · have hkinds : FieldKind.searchOrder.Pairwise (· ≠ ·) := by decide
    refine hkinds.imp fun hne r hr s hs heq => hne ?_
    rw [← (kind_valid_of_mem_records hr).1, ← (kind_valid_of_mem_records hs).1]
    exact congrArg Prod.fst heq

theorem nodup_allRecords (document : Text) : (allRecords document).Nodup :=
  (nodup_keys_allRecords document).of_map Record.key

theorem nodup_keys_eligibleRecords (document : Text) :
    ((eligibleRecords document).map Record.key).Nodup :=
  (nodup_keys_allRecords document).sublist (List.filter_sublist.map Record.key)

/-- Two records of one kind that have a character in common are the same. -/
theorem eq_of_overlaps_of_kind_eq {document : Text} {r s : Record} (hr : r ∈ allRecords document)
    (hs : s ∈ allRecords document) (hkind : r.kind = s.kind) (h : r.overlaps s = true) :
    r = s := by
  rw [mem_allRecords_iff] at hr hs
  rw [hkind] at hr
  rw [Record.overlaps_iff] at h
  rcases eq_or_stop_le_of_mem_records hr hs with rfl | h' | h'
  · rfl
  · omega
  · omega

/-! ## Lists that correspond -/

/-- An element of one list has a partner in a list that corresponds to it. -/
theorem exists_of_mem_of_forall₂ {α β : Type} {R : α → β → Prop} {l : List α} {l' : List β}
    (h : List.Forall₂ R l l') {a : α} (ha : a ∈ l) : ∃ b ∈ l', R a b := by
  obtain ⟨i, hi, rfl⟩ := List.mem_iff_getElem.mp ha
  have hi' : i < l'.length := h.length_eq ▸ hi
  exact ⟨l'[i], List.getElem_mem hi', h.get hi hi'⟩

/-- What is the same for the elements of two lists pair by pair. -/
theorem map_eq_map_of_forall₂ {α β γ : Type} {f : α → γ} {g : β → γ} {l : List α} {l' : List β}
    (h : List.Forall₂ (fun a b => f a = g b) l l') : l.map f = l'.map g := by
  rwa [← List.forall₂_eq_eq_eq, List.forall₂_map_left_iff, List.forall₂_map_right_iff]

/-! ## Records that take part in editing -/

theorem unclaimed_iff {claimed : List Position} {r : Record} :
    r.unclaimed claimed = true ↔ (r.kind = .text → ∀ p ∈ r.position?, p ∉ claimed) := by
  unfold Record.unclaimed
  split
  · rename_i p hkind hp
    simp [hkind, hp]
  · rename_i hno
    simp only [true_iff]
    exact fun hkind p hp => absurd hp (hno p hkind)

/-- A record whose coordinates can be read takes part in editing exactly if it gives a field. -/
theorem unclaimed_eq_eligible {document : Text} {r : Record} {p : Position}
    (hp : r.position? = some p) :
    r.unclaimed (claimedPositions document) = decide (r.Eligible document) := by
  rw [Bool.eq_iff_iff, unclaimed_iff, decide_eq_true_iff, Record.Eligible, hp]
  simp

theorem editableRecords_eq (document : Text) :
    editableRecords document =
      (allRecords document).filter (·.unclaimed (claimedPositions document)) := by
  rw [editableRecords, allRecords, List.filter_flatMap]

theorem placedRecords_eq (document : Text) :
    Extraction.placedRecords document =
      (eligibleRecords document).filterMap fun r => r.position?.map fun p => (r, p) := by
  rw [Extraction.placedRecords, editableRecords_eq, eligibleRecords, List.filterMap_filter,
    List.filterMap_filter]
  congr 1
  funext r
  cases hp : r.position? with
  | none => simp
  | some p => rw [unclaimed_eq_eligible hp]

/-! ## Fields -/

/-- A field as it is found at a record. -/
def FoundAt (r : Record) (f : Field) : Prop :=
  ∃ number p, r.position? = some p ∧ f = Extraction.fieldOf (.found number) r p

theorem FoundAt.key_eq {r : Record} {f : Field} (h : FoundAt r f) : f.key = r.key := by
  obtain ⟨number, p, _, rfl⟩ := h
  rfl

theorem FoundAt.position_eq {r : Record} {f : Field} (h : FoundAt r f) :
    r.position? = some f.position := by
  obtain ⟨number, p, hp, rfl⟩ := h
  exact hp

theorem forall₂_foundAt {rs : List Record} (hrs : ∀ r ∈ rs, r.position?.isSome = true)
    (number : Nat) :
    List.Forall₂ FoundAt rs
      (((rs.filterMap fun r => r.position?.map fun p => (r, p)).zipIdx number).map
        fun ((r, p), number) => Extraction.fieldOf (.found number) r p) := by
  induction rs generalizing number with
  | nil => exact List.Forall₂.nil
  | cons r rs ih =>
      obtain ⟨p, hp⟩ := Option.isSome_iff_exists.mp (hrs r List.mem_cons_self)
      rw [List.filterMap_cons_some (by rw [hp]; rfl), List.zipIdx_cons, List.map_cons]
      exact .cons ⟨number, p, hp, rfl⟩
        (ih (fun s hs => hrs s (List.mem_cons_of_mem r hs)) (number + 1))

/-- **The fields of a template are found at its eligible records, one at each, in order.** -/
theorem forall₂_fields (document : Text) :
    List.Forall₂ FoundAt (eligibleRecords document) (Extraction.fields document) := by
  rw [Extraction.fields, placedRecords_eq]
  exact forall₂_foundAt (fun r hr => (mem_eligibleRecords_iff.mp hr).2.1) 0

theorem exists_foundAt {document : Text} {r : Record} (hr : r ∈ eligibleRecords document) :
    ∃ f ∈ Extraction.fields document, FoundAt r f :=
  exists_of_mem_of_forall₂ (forall₂_fields document) hr

theorem exists_record_of_mem_fields {document : Text} {f : Field}
    (hf : f ∈ Extraction.fields document) : ∃ r ∈ eligibleRecords document, FoundAt r f :=
  exists_of_mem_of_forall₂ (forall₂_fields document).flip hf

theorem map_key_fields (document : Text) :
    (Extraction.fields document).map Field.key = (eligibleRecords document).map Record.key :=
  (map_eq_map_of_forall₂ ((forall₂_fields document).imp fun _ _ hat => hat.key_eq.symm)).symm

/-- The key of a record is among those of the fields exactly if the record gives one. -/
theorem key_mem_map_fields_iff {document : Text} {r : Record} (hr : r ∈ allRecords document) :
    r.key ∈ (Extraction.fields document).map Field.key ↔ r.Eligible document := by
  rw [map_key_fields, List.mem_map]
  constructor
  · rintro ⟨s, hs, hkey⟩
    obtain ⟨hs, heligible⟩ := mem_eligibleRecords_iff.mp hs
    rwa [← List.inj_on_of_nodup_map (nodup_keys_allRecords document) hs hr hkey]
  · exact fun heligible => ⟨r, mem_eligibleRecords_iff.mpr ⟨hr, heligible⟩, rfl⟩

/-- Two fields are the same if they are found at the same record. -/
theorem eq_iff_of_foundAt {document : Text} {f g : Field} {r s : Record}
    (hf : f ∈ Extraction.fields document) (hg : g ∈ Extraction.fields document)
    (hr : r ∈ eligibleRecords document) (hs : s ∈ eligibleRecords document)
    (hatf : FoundAt r f) (hatg : FoundAt s g) : g = f ↔ s = r := by
  have hrecords := nodup_keys_eligibleRecords document
  have hfields : ((Extraction.fields document).map Field.key).Nodup :=
    map_key_fields document ▸ hrecords
  constructor
  · rintro rfl
    exact List.inj_on_of_nodup_map hrecords hs hr (hatg.key_eq.symm.trans hatf.key_eq)
  · rintro rfl
    exact List.inj_on_of_nodup_map hfields hg hf (hatg.key_eq.trans hatf.key_eq.symm)

/-- A record with unreadable coordinates gives a warning, and nothing else does. -/
theorem extraction_warnings_eq (document : Text) :
    Extraction.warnings document =
      ((allRecords document).filter (·.position?.isNone)).map .unreadableCoordinates := by
  rw [Extraction.warnings, editableRecords_eq, List.filterMap_filter, ← List.filterMap_eq_map,
    List.filterMap_filter]
  congr 1
  funext r
  cases hp : r.position? with
  | some p => simp
  | none =>
      have : r.unclaimed (claimedPositions document) = true :=
        unclaimed_iff.mpr fun _ p h => absurd h (by simp [hp])
      simp [this]

end LabelTemplate
