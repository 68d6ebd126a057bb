import LabelTemplate.Session.Basic
import Mathlib.Data.List.Nodup
import Mathlib.Data.List.Perm.Basic

/-!
# The fields of a template that was just loaded

Sorting the fields for display neither loses nor invents one, so their names stay
different and all of them are as they were found. Then each gets the number of its place.
-/

namespace LabelTemplate

namespace Field

/-- The field as it was found in the template. -/
def asFound (f : Field) : Field :=
  { f with currentPosition := none, currentValue := f.templateValue, embedded := false }

/-- The field under no name. -/
def nameless (f : Field) : Field := { f with id := .named [] }

/-- Every field is of one of the kinds that are shown. -/
theorem flatMap_filter_perm (fields : List Field) :
    (FieldKind.displayOrder.flatMap fun kind => fields.filter (·.kind == kind)).Perm fields := by
  induction fields with
  | nil => exact List.Perm.refl _
  | cons f fields ih =>
      refine List.Perm.trans ?_ (ih.cons f)
      simp only [FieldKind.displayOrder, List.flatMap_cons, List.flatMap_nil, List.append_nil]
      cases hkind : f.kind with
      | barcode => simp [hkind]
      | image => simp [hkind, List.perm_middle]
      | text =>
          have hlast : ∀ xs ys zs : List Field,
              (xs ++ (ys ++ f :: zs)).Perm (f :: (xs ++ (ys ++ zs))) := by
            intro xs ys zs
            rw [← List.append_assoc, ← List.append_assoc]
            exact List.perm_middle
          simpa [hkind] using hlast _ _ _

/-- The fields in the order in which they are shown, before they are numbered. -/
theorem sorted_perm (fields : List Field) :
    (FieldKind.displayOrder.flatMap fun kind =>
      sortByPlace (fields.filter (·.kind == kind))).Perm fields := by
  refine List.Perm.trans ?_ (flatMap_filter_perm fields)
  exact List.Perm.flatMap_left _ fun kind _ => List.mergeSort_perm _ _

/-- What does not look at the place in the list does not see that fields are numbered. -/
theorem map_number {α : Type} (g : Field → α)
    (hg : ∀ f place, g { f with orderIndex := place } = g f) (fields : List Field) :
    (number fields).map g = fields.map g := by
  have hblind : (g ∘ fun p : Field × Nat => { p.1 with orderIndex := p.2 }) = g ∘ Prod.fst :=
    funext fun p => hg p.1 p.2
  have hfst : fields.zipIdx.map Prod.fst = fields := List.zipIdx_map_fst 0 fields
  calc (number fields).map g
      = fields.zipIdx.map (g ∘ fun p : Field × Nat => { p.1 with orderIndex := p.2 }) :=
        List.map_map
    _ = (fields.zipIdx.map Prod.fst).map g := by rw [hblind, List.map_map]
    _ = fields.map g := by rw [hfst]

/-- The number of a field is its place. -/
theorem orderIndex_of_getElem?_order {fields : List Field} {i : Nat} {f : Field}
    (h : (order fields)[i]? = some f) : f.orderIndex = i := by
  rw [order, number, List.getElem?_map, Option.map_eq_some_iff] at h
  obtain ⟨⟨g, place⟩, hg, rfl⟩ := h
  rw [List.getElem?_zipIdx, Option.map_eq_some_iff] at hg
  obtain ⟨_, _, hg⟩ := hg
  have hplace : 0 + i = place := (Prod.mk.inj hg).2
  show (place : Int) = i
  omega

/-- Sorting and numbering loses no field and invents none. -/
theorem map_order_perm {α : Type} (g : Field → α)
    (hg : ∀ f place, g { f with orderIndex := place } = g f) (fields : List Field) :
    ((order fields).map g).Perm (fields.map g) := by
  rw [order, map_number g hg]
  exact (sorted_perm fields).map g

/-- Sorting looks at kinds and positions only, so a change of anything else can wait. -/
theorem map_order {g : Field → Field} (hkind : ∀ f, (g f).kind = f.kind)
    (hposition : ∀ f, (g f).position = f.position)
    (hplace : ∀ f place, g { f with orderIndex := place } = { g f with orderIndex := place })
    (fields : List Field) : (order fields).map g = order (fields.map g) := by
  have hsort : ∀ fields, (sortByPlace fields).map g = sortByPlace (fields.map g) := by
    intro fields
    refine List.map_mergeSort fun f _ f' _ => ?_
    rw [hposition, hposition]
  have hnumber : ∀ fields, (number fields).map g = number (fields.map g) := by
    intro fields
    rw [number, number, List.map_map, List.zipIdx_map, List.map_map]
    exact List.map_congr_left fun p _ => hplace p.1 p.2
  rw [order, hnumber, List.map_flatMap, order]
  simp only [hsort, List.filter_map, Function.comp_def, hkind]

theorem exists_of_mem_order {fields : List Field} {f : Field} (h : f ∈ order fields) :
    ∃ g ∈ fields, ∃ place, f = { g with orderIndex := place } := by
  obtain ⟨⟨g, place⟩, hg, rfl⟩ := List.mem_map.mp h
  exact ⟨g, (sorted_perm fields).subset (List.fst_mem_of_mem_zipIdx hg), place, rfl⟩

end Field

namespace Session

/-- Names are given out in a row. -/
theorem map_id_christen (s : Session) (document : Text) :
    ((Extraction.fields document).map s.christen).map Field.id =
      (List.range' 0 (Extraction.placedRecords document).length).map
        fun number => FieldId.found (s.namesGiven + number) := by
  have hsnd : ((Extraction.placedRecords document).zipIdx).map Prod.snd =
      List.range' 0 (Extraction.placedRecords document).length := List.zipIdx_map_snd 0 _
  rw [← hsnd, Extraction.fields, List.map_map, List.map_map, List.map_map]
  rfl

/-- **No two fields of a template have the same name.** -/
theorem nodup_ids_load (s : Session) (raw fileName : Text) :
    ((s.load raw fileName).fields.map Field.id).Nodup := by
  have hperm := Field.map_order_perm Field.id (fun _ _ => rfl)
    ((Extraction.fields (Normalization.normalize raw)).map s.christen)
  refine hperm.nodup_iff.mpr ?_
  rw [map_id_christen]
  refine List.Nodup.map (fun m n h => ?_) List.nodup_range'
  have hnumber : s.namesGiven + m = s.namesGiven + n := FieldId.found.inj h
  omega

/-- Names are all that two sessions that load the same template do not have in common. -/
theorem map_nameless_load (s t : Session) (raw fileName : Text) :
    (s.load raw fileName).fields.map Field.nameless =
      (t.load raw fileName).fields.map Field.nameless := by
  have horder : ∀ fields : List Field,
      (Field.order fields).map Field.nameless = Field.order (fields.map Field.nameless) :=
    Field.map_order (fun _ => rfl) (fun _ => rfl) (fun _ _ => rfl)
  have hchristen : ∀ (s : Session) (f : Field), (s.christen f).nameless = f.nameless := by
    intro s f
    unfold christen
    split <;> rfl
  rw [load, load, horder, horder, List.map_map, List.map_map]
  simp only [Function.comp_def, hchristen]

/-- A field that was just found is as it was found. -/
theorem asFound_christen (s : Session) {document : Text} {f : Field}
    (h : f ∈ (Extraction.fields document).map s.christen) : f.asFound = f := by
  obtain ⟨g, hg, rfl⟩ := List.mem_map.mp h
  obtain ⟨⟨⟨r, p⟩, number⟩, _, rfl⟩ := List.mem_map.mp hg
  rfl

theorem map_asFound_load (s : Session) (raw fileName : Text) :
    (s.load raw fileName).fields.map Field.asFound = (s.load raw fileName).fields := by
  have hsame : (s.load raw fileName).fields.map Field.asFound =
      (s.load raw fileName).fields.map fun f => f := by
    refine List.map_congr_left fun f hf => ?_
    obtain ⟨g, hg, place, rfl⟩ := Field.exists_of_mem_order hf
    have hfound := s.asFound_christen hg
    calc Field.asFound { g with orderIndex := place }
        = { g.asFound with orderIndex := place } := rfl
      _ = { g with orderIndex := place } := by rw [hfound]
  rw [hsame, List.map_id']

end Session

end LabelTemplate
