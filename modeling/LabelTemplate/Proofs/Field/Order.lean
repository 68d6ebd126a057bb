import LabelTemplate.Proofs.Session.Loading
import Mathlib.Data.Prod.Lex

/-!
# The order in which fields are shown

`Shown` says what the order is, without sorting: the fields rise by kind, then downwards, then to the
right; fields that agree in all three stand as they were found; and the number of a field is its
place. There is only one such list. The fields of one key are given in their order, and in a list
that rises the first key is the least, so the list is put together from its front
(`eq_of_filter_eq`).

That ordering once more changes nothing is read off `Shown`: an ordered list is shown by itself.
-/

namespace LabelTemplate

/-- The place of a kind among those that are shown. -/
def FieldKind.rank : FieldKind → Nat
  | .barcode => 0
  | .image => 1
  | .text => 2

theorem FieldKind.rank_inj {k l : FieldKind} (h : k.rank = l.rank) : k = l := by
  cases k <;> cases l <;> simp [FieldKind.rank] at h ⊢

/-! ## A list that rises is determined by its classes -/

section Classes

variable {α κ : Type} [LinearOrder κ] {key : α → κ} {x y : α} {a b : List α}

theorem mem_iff_of_filter_eq (h : ∀ k, a.filter (key · = k) = b.filter (key · = k)) :
    x ∈ a ↔ x ∈ b := by
  have hclass : ∀ c : List α, x ∈ c ↔ x ∈ c.filter (key · = key x) := by simp
  rw [hclass a, hclass b, h]

/-- The first key of a list that rises is the least one. -/
theorem key_head_le (ha : (x :: a).Pairwise fun x y => key x ≤ key y) (hy : y ∈ x :: a) :
    key x ≤ key y := by
  rcases List.mem_cons.mp hy with rfl | hy
  · exact le_rfl
  · exact List.rel_of_pairwise_cons ha hy

theorem eq_of_filter_eq (ha : a.Pairwise fun x y => key x ≤ key y)
    (hb : b.Pairwise fun x y => key x ≤ key y)
    (h : ∀ k, a.filter (key · = k) = b.filter (key · = k)) : a = b := by
  induction a generalizing b with
  | nil =>
      refine (List.eq_nil_iff_forall_not_mem.mpr fun x hx => ?_).symm
      exact List.not_mem_nil ((mem_iff_of_filter_eq h).mpr hx)
  | cons x a ih =>
      obtain ⟨y, b, rfl⟩ := List.exists_cons_of_ne_nil
        (List.ne_nil_of_mem ((mem_iff_of_filter_eq h).mp List.mem_cons_self))
      have hkey : key x = key y := le_antisymm
        (key_head_le ha ((mem_iff_of_filter_eq h).mpr List.mem_cons_self))
        (key_head_le hb ((mem_iff_of_filter_eq h).mp List.mem_cons_self))
      -- both heads are the first of the least class
      obtain rfl : x = y := by
        have hfirst := h (key x)
        rw [List.filter_cons_of_pos (by simp), List.filter_cons_of_pos (by simp [hkey])] at hfirst
        exact (List.cons.inj hfirst).1
      refine congrArg (x :: ·) (ih ha.of_cons hb.of_cons fun k => ?_)
      have hclass := h k
      by_cases hx : key x = k
      · rw [List.filter_cons_of_pos (by simpa using hx),
          List.filter_cons_of_pos (by simpa using hx)] at hclass
        exact (List.cons.inj hclass).2
      · rwa [List.filter_cons_of_neg (by simpa using hx),
          List.filter_cons_of_neg (by simpa using hx)] at hclass

end Classes

namespace Field

/-! ## Specification -/

/-- What fields are shown by: the kind, then how far down and how far to the right they stand. -/
def sortKey (f : Field) : Nat ×ₗ Int ×ₗ Int :=
  toLex (f.kind.rank, toLex (f.position.y, f.position.x))

/-- The field without its number. -/
def unnumbered (f : Field) : Field := { f with orderIndex := 0 }

/-- The field where the template has it. -/
def unmoved (f : Field) : Field := { f with currentPosition := none }

/-- The second list shows the fields of the first. -/
structure Shown (fields shown : List Field) : Prop where
  /-- Fields are numbered; apart from that none is changed, lost or shown twice. -/
  same : (shown.map unnumbered).Perm (fields.map unnumbered)
  /-- The number of a field is its place. -/
  numbered : ∀ (place : Nat) (f : Field), shown[place]? = some f → f.orderIndex = place
  /-- Bar codes, images, texts; each from top to bottom, and on one height from left to right. -/
  rising : shown.Pairwise fun f g => f.sortKey ≤ g.sortKey
  /-- Fields of one kind at one position stand as they were found. -/
  stable : ∀ key, (shown.filter (·.sortKey = key)).map unnumbered =
    (fields.filter (·.sortKey = key)).map unnumbered

theorem filter_map_unnumbered (fields : List Field) (key : Nat ×ₗ Int ×ₗ Int) :
    (fields.map unnumbered).filter (·.sortKey = key) =
      (fields.filter (·.sortKey = key)).map unnumbered := List.filter_map

/-- There is only one list that shows some fields. -/
theorem Shown.unique {fields a b : List Field} (ha : Shown fields a) (hb : Shown fields b) :
    a = b := by
  have hkeys : ∀ {shown}, Shown fields shown →
      (shown.map unnumbered).Pairwise fun f g => f.sortKey ≤ g.sortKey := fun h =>
    List.pairwise_map.mpr h.rising
  have hmap : a.map unnumbered = b.map unnumbered := eq_of_filter_eq (hkeys ha) (hkeys hb)
    fun key => by
      rw [filter_map_unnumbered, filter_map_unnumbered, ha.stable key, hb.stable key]
  refine List.ext_getElem? fun place => ?_
  have hplace : (a[place]?).map unnumbered = (b[place]?).map unnumbered := by
    rw [← List.getElem?_map, hmap, List.getElem?_map]
  cases hf : a[place]? with
  | none =>
      rw [hf] at hplace
      exact (Option.map_eq_none_iff.mp hplace.symm).symm
  | some f =>
      rw [hf] at hplace
      obtain ⟨g, hg, hsame⟩ := Option.map_eq_some_iff.mp hplace.symm
      have hnumber : g.orderIndex = f.orderIndex := by
        rw [hb.numbered place g hg, ha.numbered place f hf]
      rw [hg]
      refine congrArg some ?_
      calc f = { f.unnumbered with orderIndex := f.orderIndex } := rfl
        _ = { g.unnumbered with orderIndex := g.orderIndex } := by rw [hsame, hnumber]
        _ = g := rfl

/-! ## Sorting -/

theorem readsBefore_iff {p q : Position} :
    p.readsBefore q = true ↔ (toLex (p.y, p.x) : Int ×ₗ Int) ≤ toLex (q.y, q.x) := by
  simp [Position.readsBefore, Prod.Lex.toLex_le_toLex]

theorem readsBefore_trans (f g h : Field) (hfg : f.position.readsBefore g.position = true)
    (hgh : g.position.readsBefore h.position = true) :
    f.position.readsBefore h.position = true := by
  rw [readsBefore_iff] at hfg hgh ⊢
  exact hfg.trans hgh

theorem readsBefore_total (f g : Field) :
    (f.position.readsBefore g.position || g.position.readsBefore f.position) = true := by
  rw [Bool.or_eq_true, readsBefore_iff, readsBefore_iff]
  exact le_total _ _

theorem sortKey_le_iff {f g : Field} (h : f.kind = g.kind) :
    f.sortKey ≤ g.sortKey ↔ f.position.readsBefore g.position = true := by
  rw [readsBefore_iff, sortKey, sortKey, h, Prod.Lex.toLex_le_toLex]
  simp

/-- The fields in the order in which they are shown, without numbers of their own. -/
def sorted (fields : List Field) : List Field :=
  FieldKind.displayOrder.flatMap fun kind => sortByPlace (fields.filter (·.kind == kind))

theorem order_eq (fields : List Field) : order fields = number (sorted fields) := rfl

theorem mem_sortByPlace_filter {fields : List Field} {kind : FieldKind} {f : Field} :
    f ∈ sortByPlace (fields.filter (·.kind == kind)) ↔ f ∈ fields ∧ f.kind = kind := by
  rw [sortByPlace, (List.mergeSort_perm _ _).mem_iff, List.mem_filter, beq_iff_eq]

theorem pairwise_sorted (fields : List Field) :
    (sorted fields).Pairwise fun f g => f.sortKey ≤ g.sortKey := by
  rw [sorted, List.pairwise_flatMap]
  constructor
  · intro kind _
    have hsorted := List.pairwise_mergeSort readsBefore_trans readsBefore_total
      (fields.filter (·.kind == kind))
    refine List.Pairwise.imp_of_mem (fun hf hg h => ?_) hsorted
    rw [sortKey_le_iff ((mem_sortByPlace_filter.mp hf).2.trans (mem_sortByPlace_filter.mp hg).2.symm)]
    exact h
  · have hranks : FieldKind.displayOrder.Pairwise fun k l => k.rank < l.rank := by decide
    refine hranks.imp fun hlt f hf g hg => ?_
    rw [← (mem_sortByPlace_filter.mp hf).2, ← (mem_sortByPlace_filter.mp hg).2] at hlt
    rw [sortKey, sortKey, Prod.Lex.toLex_le_toLex]
    exact .inl hlt

theorem sortByPlace_sublist_sorted (fields : List Field) (kind : FieldKind) :
    (sortByPlace (fields.filter (·.kind == kind))).Sublist (sorted fields) := by
  rw [sorted, List.flatMap_def]
  refine List.sublist_flatten_of_mem (List.mem_map_of_mem ?_)
  cases kind <;> decide

/-- Fields of one key are of one kind and at one position, so sorting leaves them as they are. -/
theorem class_sublist_sorted (fields : List Field) (f : Field) :
    (fields.filter (·.sortKey = f.sortKey)).Sublist (sorted fields) := by
  have hkind : ∀ g : Field, g.sortKey = f.sortKey → g.kind = f.kind := fun g hg =>
    FieldKind.rank_inj (congrArg (fun key => (ofLex key).1) hg)
  have hclass : fields.filter (·.sortKey = f.sortKey) =
      (fields.filter (·.kind == f.kind)).filter (·.sortKey = f.sortKey) := by
    rw [List.filter_filter]
    refine List.filter_congr fun g _ => ?_
    by_cases hg : g.sortKey = f.sortKey
    · simp [hg, hkind g hg]
    · simp [hg]
  have hlevel : (fields.filter (·.sortKey = f.sortKey)).Pairwise
      fun g h => g.position.readsBefore h.position = true := by
    refine List.pairwise_of_forall_mem_list fun g hg h hh => ?_
    have hg' : g.sortKey = f.sortKey := by simpa using (List.mem_filter.mp hg).2
    have hh' : h.sortKey = f.sortKey := by simpa using (List.mem_filter.mp hh).2
    rw [← sortKey_le_iff ((hkind g hg').trans (hkind h hh').symm), hg', hh']
  refine List.Sublist.trans ?_ (sortByPlace_sublist_sorted fields f.kind)
  rw [hclass] at hlevel ⊢
  exact List.sublist_mergeSort readsBefore_trans readsBefore_total hlevel List.filter_sublist

/-- Sorting keeps the order of the fields of one key. -/
theorem filter_sorted (fields : List Field) (key : Nat ×ₗ Int ×ₗ Int) :
    (sorted fields).filter (·.sortKey = key) = fields.filter (·.sortKey = key) := by
  have hperm : ((sorted fields).filter (·.sortKey = key)).Perm
      (fields.filter (·.sortKey = key)) := (sorted_perm fields).filter _
  refine (List.Sublist.eq_of_length ?_ hperm.length_eq.symm).symm
  by_cases hclass : ∃ f ∈ fields, f.sortKey = key
  · obtain ⟨f, _, rfl⟩ := hclass
    simpa using (class_sublist_sorted fields f).filter (·.sortKey = f.sortKey)
  · rw [List.filter_eq_nil_iff.mpr fun f hf hkey => hclass ⟨f, hf, by simpa using hkey⟩]
    exact List.nil_sublist _

theorem shown_order (fields : List Field) : Shown fields (order fields) := by
  have hkey : ∀ (f : Field) (place : Int), sortKey { f with orderIndex := place } = f.sortKey :=
    fun _ _ => rfl
  refine ⟨map_order_perm unnumbered (fun _ _ => rfl) fields,
    fun place f h => orderIndex_of_getElem?_order h, ?_, fun key => ?_⟩
  · have hkeys := List.pairwise_map.mpr (pairwise_sorted fields)
    rw [← map_number sortKey hkey] at hkeys
    exact List.pairwise_map.mp hkeys
  · rw [← filter_map_unnumbered, order_eq, map_number unnumbered (fun _ _ => rfl),
      filter_map_unnumbered, filter_sorted]

theorem order_eq_iff {fields shown : List Field} : order fields = shown ↔ Shown fields shown := by
  refine ⟨?_, (shown_order fields).unique⟩
  rintro rfl
  exact shown_order fields

/-- A list that is shown is shown by itself. -/
theorem Shown.self {fields shown : List Field} (h : Shown fields shown) : Shown shown shown :=
  ⟨List.Perm.refl _, h.numbered, h.rising, fun _ => rfl⟩

/--
**Fields are shown by kind and place, and otherwise as they were found.**

There is one list of this kind for any fields. Where a field was moved to has no say in it, nor has the
way in which the kinds are mixed, and a list that is in order stays as it is.
-/
theorem order_is_stable_sort (fields : List Field) :
    (∀ shown, order fields = shown ↔ Shown fields shown) ∧
      (∀ others, others.map unmoved = fields.map unmoved →
        (order others).map unmoved = (order fields).map unmoved) ∧
      (∀ others : List Field,
        (∀ kind, others.filter (·.kind == kind) = fields.filter (·.kind == kind)) →
          order others = order fields) ∧
      order (order fields) = order fields := by
  refine ⟨fun _ => order_eq_iff, fun others h => ?_, fun others h => ?_,
    order_eq_iff.mpr (shown_order fields).self⟩
  · have hmoved : ∀ fields, (order fields).map unmoved = order (fields.map unmoved) :=
      map_order (fun _ => rfl) (fun _ => rfl) fun _ _ => rfl
    rw [hmoved, hmoved, h]
  · simp only [order, h]

end Field

end LabelTemplate
