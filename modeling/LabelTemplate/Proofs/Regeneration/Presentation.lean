import LabelTemplate.Proofs.Regeneration.Binding

/-!
# Writing back does not depend on how fields are presented

A list of fields is looked at through three filters: how many fields of a kind have a value,
which of them have an ambiguous value and a number, and which have an unambiguous value. The
last two leave at most one field if no two fields of the kind have the same number, and a list
of one element has no order. So any order of the fields gives the same answers.

Apart from kind, value and number, which the filters look at, a field only counts by the change
that it asks for. `Harmless` says of a mapping of fields that it leaves all this alone; then it
leaves alone what is written.
-/

namespace LabelTemplate

/-- The field without its name, its place among the fields shown, and its graphic. -/
def Field.unlabelled (f : Field) : Field :=
  { f with id := .named [], orderIndex := 0, imageName := none, embedded := false }

namespace Regeneration

/-! ## What is not looked at -/

/-- The mapping leaves alone what fields are found by and the changes that they ask for. -/
structure Harmless (φ : Field → Field) : Prop where
  /-- The kind, by which fields are told apart first. -/
  kind : ∀ f, (φ f).kind = f.kind
  /-- The value by which a field is found. -/
  templateValue : ∀ f, (φ f).templateValue = f.templateValue
  /-- The number by which a field is found if others share its value. -/
  sourceOrdinal : ∀ f, (φ f).sourceOrdinal = f.sourceOrdinal
  /-- Whether the field asks for a change. -/
  isModified : ∀ f, (φ f).isModified = f.isModified
  /-- The change that it asks for. -/
  changeOf : ∀ remap s f, Regeneration.changeOf remap s (φ f) = Regeneration.changeOf remap s f

section

variable {φ : Field → Field}

theorem ambiguous_map (h : Harmless φ) (fields : List Field) (value : Text) :
    ambiguous (fields.map φ) value = ambiguous fields value := by
  rw [ambiguous, ambiguous, List.filter_map, List.length_map]
  simp only [Function.comp_def, h.templateValue]

theorem byOrdinal?_map (h : Harmless φ) (fields : List Field) (ordinal : Nat) :
    byOrdinal? (fields.map φ) ordinal = (byOrdinal? fields ordinal).map φ := by
  rw [byOrdinal?, byOrdinal?, List.filter_map, List.getLast?_map]
  simp only [Function.comp_def, ambiguous_map h, h.templateValue, h.sourceOrdinal]

theorem resolve?_map (h : Harmless φ) (fields : List Field) (r : Record) :
    resolve? (fields.map φ) r = (resolve? fields r).map φ := by
  unfold resolve?
  rw [ambiguous_map h, byOrdinal?_map h, Option.filter_map, List.find?_map]
  simp only [Function.comp_def, h.templateValue]
  split <;> rfl

theorem modifiedField?_map (h : Harmless φ) (fields : List Field) (r : Record) :
    modifiedField? (fields.map φ) r = (modifiedField? fields r).map φ := by
  unfold modifiedField?
  split
  · rfl
  · rw [List.filter_map, resolve?_map h, Option.filter_map]
    simp only [Function.comp_def, h.kind, h.isModified]

theorem replacements_map (h : Harmless φ) (remap : Bool) (document : Text) (fields : List Field) :
    replacements remap document (fields.map φ) = replacements remap document fields := by
  have hreplacement : replacement? remap (fields.map φ) = replacement? remap fields := by
    funext r
    simp [replacement?, modifiedField?_map h, Function.comp_def, h.changeOf]
  rw [replacements, hreplacement, replacements]

/-- **What is not looked at makes no difference to the text and the warnings.** -/
theorem regenerate_map (h : Harmless φ) (remap : Bool) (document : Text) (fields : List Field) :
    regenerate remap document (fields.map φ) = regenerate remap document fields ∧
      warnings remap document (fields.map φ) = warnings remap document fields := by
  rw [regenerate, regenerate, warnings, warnings, replacements_map h, List.isEmpty_map]
  exact ⟨rfl, rfl⟩

end

theorem harmless_unlabelled : Harmless Field.unlabelled where
  kind _ := rfl
  templateValue _ := rfl
  sourceOrdinal _ := rfl
  isModified _ := rfl
  changeOf _ _ _ := rfl

/-! ## The order of the fields -/

/-- A list without an order to change. -/
theorem eq_of_perm_of_length_le_one {α : Type} {l l' : List α} (h : l.Perm l')
    (hlength : l.length ≤ 1) : l = l' := by
  rcases Nat.le_one_iff_eq_zero_or_eq_one.mp hlength with hzero | hone
  · rw [List.length_eq_zero_iff] at hzero
    subst hzero
    exact h.nil_eq
  · obtain ⟨a, rfl⟩ := List.length_eq_one_iff.mp hone
    exact h.singleton_eq

/-- A filter for one value of something in which the elements differ leaves at most one. -/
theorem length_filter_le_one {α β : Type} {f : α → β} {l : List α} (h : (l.map f).Nodup)
    {p : α → Bool} {b : β} (hp : ∀ a ∈ l, p a = true → f a = b) : (l.filter p).length ≤ 1 := by
  have hsublist : ((l.filter p).map f).Nodup := h.sublist (List.filter_sublist.map f)
  have hsame : (l.filter p).map f = List.replicate (l.filter p).length b := by
    refine List.eq_replicate_iff.mpr ⟨List.length_map _, fun c hc => ?_⟩
    obtain ⟨a, ha, rfl⟩ := List.mem_map.mp hc
    obtain ⟨hmem, hpa⟩ := List.mem_filter.mp ha
    exact hp a hmem hpa
  rwa [hsame, List.nodup_replicate] at hsublist

section

variable {fields fields' : List Field}

theorem ambiguous_of_perm (h : fields.Perm fields') (value : Text) :
    ambiguous fields value = ambiguous fields' value := by
  rw [ambiguous, ambiguous, (h.filter _).length_eq]

theorem byOrdinal?_of_perm (h : fields.Perm fields')
    (hordinals : (fields.map Field.sourceOrdinal).Nodup) (ordinal : Nat) :
    byOrdinal? fields ordinal = byOrdinal? fields' ordinal := by
  rw [byOrdinal?, byOrdinal?]
  simp only [ambiguous_of_perm h]
  refine congrArg _ (eq_of_perm_of_length_le_one (h.filter _)
    (length_filter_le_one (b := (ordinal : Int)) hordinals fun f _ hf => ?_))
  simp only [Bool.and_eq_true, beq_iff_eq] at hf
  exact hf.2

theorem resolve?_of_perm (h : fields.Perm fields')
    (hordinals : (fields.map Field.sourceOrdinal).Nodup) (r : Record) :
    resolve? fields r = resolve? fields' r := by
  rw [resolve?, resolve?, ← ambiguous_of_perm h, byOrdinal?_of_perm h hordinals]
  split
  · rfl
  · -- the value is not ambiguous, so the filter leaves at most one field
    rename_i hambiguous
    rw [← List.head?_filter, ← List.head?_filter]
    refine congrArg _ (eq_of_perm_of_length_le_one (h.filter _) ?_)
    rw [ambiguous, decide_eq_true_eq] at hambiguous
    omega

/-- Fields of one kind have different numbers if all keys are different. -/
theorem nodup_sourceOrdinals (hkeys : (fields.map Field.key).Nodup) (kind : FieldKind) :
    ((fields.filter (·.kind == kind)).map Field.sourceOrdinal).Nodup := by
  refine List.Nodup.map_on (fun f hf g hg heq => ?_) ((hkeys.of_map Field.key).filter _)
  obtain ⟨hf, hfkind⟩ := List.mem_filter.mp hf
  obtain ⟨hg, hgkind⟩ := List.mem_filter.mp hg
  refine List.inj_on_of_nodup_map hkeys hf hg ?_
  rw [Field.key, Field.key, heq, beq_iff_eq.mp hfkind, beq_iff_eq.mp hgkind]

theorem replacements_of_perm (h : fields.Perm fields') (hkeys : (fields.map Field.key).Nodup)
    (remap : Bool) (document : Text) :
    replacements remap document fields = replacements remap document fields' := by
  have hreplacement : replacement? remap fields = replacement? remap fields' := by
    funext r
    rw [replacement?, replacement?, modifiedField?, modifiedField?,
      resolve?_of_perm (h.filter _) (nodup_sourceOrdinals hkeys r.kind)]
  rw [replacements, replacements, hreplacement]

end

/--
**Writing back does not depend on how fields are presented.**

The same fields in another order give the same text and the same warnings, if no two of them
have the same kind and number. So do fields that differ in nothing but their names, their
places among the fields shown, the graphics that they name and whether these are embedded.
-/
theorem regenerate_ignores_presentation (remap : Bool) (document : Text)
    {fields fields' : List Field} :
    (fields.Perm fields' → (fields.map Field.key).Nodup →
      regenerate remap document fields = regenerate remap document fields' ∧
        warnings remap document fields = warnings remap document fields') ∧
      (fields.map Field.unlabelled = fields'.map Field.unlabelled →
        regenerate remap document fields = regenerate remap document fields' ∧
          warnings remap document fields = warnings remap document fields') := by
  constructor
  · intro hperm hkeys
    rw [regenerate, regenerate, warnings, warnings, replacements_of_perm hperm hkeys,
      hperm.isEmpty_eq]
    exact ⟨rfl, rfl⟩
  · intro hlabels
    obtain ⟨htext, hwarnings⟩ := regenerate_map harmless_unlabelled remap document fields
    obtain ⟨htext', hwarnings'⟩ := regenerate_map harmless_unlabelled remap document fields'
    exact ⟨by rw [← htext, hlabels, htext'], by rw [← hwarnings, hlabels, hwarnings']⟩

/-- Two texts of one value with different edits, and an image across one of them, in reverse. -/
theorem regenerate_ignores_presentation_of_reverse :
    let document := "^FT1,2^FDa^FS^FO1,2^FT3,4^FDa^XGb,^FS".toList
    let fields := (Extraction.fields document).map fun f =>
      if f.sourceOrdinal = 0 then f.withValue ['c'] else f.withPosition ⟨7, 8⟩
    let shown := fields.map fun f => { f with id := .named ['n'], orderIndex := 4 }
    (fields.map Field.key).Nodup ∧ (warnings true document fields).length = 1 ∧
      regenerate true document fields = regenerate true document shown.reverse ∧
      warnings true document fields = warnings true document shown.reverse := by
  intro document fields shown
  have hkeys : (fields.map Field.key).Nodup := by decide
  have hkeys' : (shown.map Field.key).Nodup := by decide
  obtain ⟨htext, hwarnings⟩ :=
    (@regenerate_ignores_presentation true document fields shown).2 (by decide)
  obtain ⟨htext', hwarnings'⟩ := (@regenerate_ignores_presentation true document shown
    shown.reverse).1 (List.reverse_perm shown).symm hkeys'
  exact ⟨hkeys, by decide, htext.trans htext', hwarnings.trans hwarnings'⟩

end Regeneration

end LabelTemplate
