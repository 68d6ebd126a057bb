import LabelTemplate.Proofs.Embedding.Insertion
import Mathlib.Data.List.Nodup
import Mathlib.Data.List.Pairwise

/-!
# The names of embedded definitions

A printer stores a definition under the name up to the comma, and a later definition of that name
takes its place. So no two definitions that are put in should have one name, and none should have
the name of a definition in the document.

Neither is looked after. A request is passed over if the document defines the current value of its
image, and what is put in is only compared as a whole. So two images with one value get two
definitions of one name if their graphics differ. And the name in a definition is not always the
value (`storedName`): format commands are taken out of it, and it ends at a comma.
`names_are_distinct_iff` says exactly when names are distinct, for any fields and any definitions.
-/

namespace LabelTemplate

open Text Command Cleaning Scan

theorem nodup_distinctBy_id {α : Type} [BEq α] [LawfulBEq α] (l : List α) :
    (distinctBy id l).Nodup := by
  induction l with
  | nil => exact List.nodup_nil
  | cons a l ih =>
      rw [distinctBy, List.nodup_cons]
      refine ⟨fun h => ?_, ih.filter _⟩
      have hne := (List.mem_filter.mp h).2
      simp at hne

namespace Embedding

variable {document : Text} {definitions : Definitions} {fields : List Field} {f : Field}
  {name : Text}

/-! ## Specification -/

/-- The name under which an embedded definition is stored. -/
def storedName (f : Field) : Text := (withoutFormat f.currentValue).takeWhile (· != ',')

/-- The printer stores the definition under this name, which ends at the first comma. -/
def StoredUnder (definition name : Text) : Prop :=
  ',' ∉ name ∧ Definitions.opening name <+: definition

/-- The printer stores both definitions under one name. -/
def SameName (a b : Text) : Prop := ∃ stored, StoredUnder a stored ∧ StoredUnder b stored

instance : Std.Symm fun a b => ¬ SameName a b :=
  ⟨fun _ _ h ⟨stored, ha, hb⟩ => h ⟨stored, hb, ha⟩⟩

/-! ## Texts without format commands -/

theorem exact_formatCommand :
    Exact fun u => if atFormatCommand u then some ((), 3) else none := by
  intro t _ n h
  dsimp only at h
  split at h
  · rename_i hat
    obtain ⟨_, rfl⟩ := Prod.mk.inj (Option.some.inj h)
    rcases atFormatCommand_iff.mp hat with hpre | hpre
    · exact ⟨by omega, hpre.length_le⟩
    · exact ⟨by omega, hpre.length_le⟩
  · exact absurd h (by simp)

/-- No format command goes over a comma. -/
theorem withoutFormat_append_comma (w data : Text) :
    withoutFormat (w ++ ',' :: data) = withoutFormat w ++ withoutFormat (',' :: data) := by
  refine replace_append exact_formatCommand fun u hu _ => ?_
  have hat : atFormatCommand (u ++ ',' :: data) = atFormatCommand u := by
    rw [Bool.eq_iff_iff, atFormatCommand_iff, atFormatCommand_iff,
      prefix_append_iff_of_head hu (by simp [formatStart]),
      prefix_append_iff_of_head hu (by simp [formatEnd])]
  rw [hat]

theorem withoutFormat_of_not_mem {t : Text} (h : '^' ∉ t) : withoutFormat t = t :=
  withoutFormat_eq_self ⟨isCommand_formatStart.not_infix_of_not_mem h,
    isCommand_formatEnd.not_infix_of_not_mem h⟩

theorem withoutFormat_storeGraphic_append (t : Text) :
    withoutFormat (storeGraphic ++ t) = storeGraphic ++ withoutFormat t := by
  refine replace_append_of_none fun u hu hsuffix => if_neg ?_
  obtain ⟨c, cs, rfl⟩ := List.exists_cons_of_ne_nil hu
  have hc : c ≠ '^' := by
    rintro rfl
    exact absurd (hsuffix.subset List.mem_cons_self) (by decide)
  rw [atFormatCommand_iff]
  rintro (hpre | hpre)
  · exact hc (List.cons_prefix_cons.mp hpre).1.symm
  · exact hc (List.cons_prefix_cons.mp hpre).1.symm

/-! ## The name of a definition -/

/-- The name ends where the value without format commands does, or at a comma before that. -/
theorem exists_storedName_append (f : Field) (data : Text) : ∃ data',
    withoutFormat f.currentValue ++ ',' :: data = storedName f ++ ',' :: data' := by
  have hsplit : (withoutFormat f.currentValue).takeWhile (· != ',') ++
      (withoutFormat f.currentValue).dropWhile (· != ',') = withoutFormat f.currentValue :=
    List.takeWhile_append_dropWhile
  rw [storedName]
  cases hbehind : (withoutFormat f.currentValue).dropWhile (· != ',') with
  | nil =>
      rw [hbehind, List.append_nil] at hsplit
      exact ⟨data, by rw [hsplit]⟩
  | cons c cs =>
      have hc : c = ',' := by
        have := List.head?_dropWhile_not (· != ',') (withoutFormat f.currentValue)
        rw [hbehind] at this
        simpa using this
      subst hc
      rw [hbehind] at hsplit
      refine ⟨cs ++ ',' :: data, ?_⟩
      nth_rewrite 1 [← hsplit]
      simp

theorem comma_not_mem_storedName (f : Field) : ',' ∉ storedName f := fun h =>
  absurd (List.mem_takeWhile_imp h) (by decide)

/-- In a value with neither a caret nor a comma, the name is the value. -/
theorem storedName_of_not_mem (hcaret : '^' ∉ f.currentValue) (hcomma : ',' ∉ f.currentValue) :
    storedName f = f.currentValue := by
  rw [storedName, withoutFormat_of_not_mem hcaret, List.takeWhile_eq_self_iff]
  intro c hc
  refine bne_iff_ne.mpr ?_
  rintro rfl
  exact hcomma hc

/-- **What is put in begins with the store command and the name.** -/
theorem exists_eq_of_answer {text : Text}
    (h : answer document definitions f name = .block text) :
    ∃ data, text = storeGraphic ++ (storedName f ++ ',' :: data) := by
  obtain ⟨_, hlookup, rfl⟩ := answer_eq_block_iff.mp h
  obtain ⟨start, data, hdefinition, hlength, hdata⟩ := Definitions.exists_lookup_eq hlookup
  have hdrop : (definitions.lookup name).drop (storeGraphic ++ name).length = ',' :: data := by
    rw [hdefinition, ← hlength, List.drop_left]
  have hfree : FormatFree (',' :: data) :=
    (formatFree_append_iff (v := [',']) (by decide) data).mpr hdata
  have hcomma : isBlank ',' = false := by decide
  obtain ⟨data', hdata'⟩ := exists_storedName_append f (Text.trimEnd data)
  refine ⟨data', ?_⟩
  calc (withoutFormat (rename (definitions.lookup name) name f.currentValue)).trim
      = (withoutFormat (storeGraphic ++ (f.currentValue ++ ',' :: data))).trim := by
        rw [rename, ← List.length_append, hdrop, List.append_assoc]
    _ = (storeGraphic ++ (withoutFormat f.currentValue ++ ',' :: data)).trim := by
        rw [withoutFormat_storeGraphic_append, withoutFormat_append_comma,
          withoutFormat_eq_self hfree]
    _ = (storeGraphic ++ (withoutFormat f.currentValue ++ ',' :: data)).trimEnd :=
        trim_cons (d := '~') (by decide) _
    _ = storeGraphic ++ (withoutFormat f.currentValue ++ ',' :: Text.trimEnd data) := by
        rw [← List.append_assoc, trimEnd_append_cons hcomma, List.append_assoc]
    _ = storeGraphic ++ (storedName f ++ ',' :: data') := by rw [hdata']

theorem storedUnder_iff {text stored : Text}
    (h : answer document definitions f name = .block text) :
    StoredUnder text stored ↔ stored = storedName f := by
  obtain ⟨data, rfl⟩ := exists_eq_of_answer h
  constructor
  · rintro ⟨hcomma, rest, hrest⟩
    rw [Definitions.opening_eq, List.append_right_inj] at hrest
    exact (append_cons_inj_of_not_mem hcomma (comma_not_mem_storedName f) hrest).1
  · rintro rfl
    exact ⟨comma_not_mem_storedName f, data, Definitions.opening_eq _ _⟩

/-! ## Names in the group -/

theorem embed_eq (document : Text) (definitions : Definitions) (fields : List Field) :
    embed document definitions fields = document ∨ ∃ front back, document = front ++ back ∧
      embed document definitions fields =
        front ++ group (blocks document definitions fields) ++ back := by
  by_cases hformat : formatStart <:+: document
  · by_cases hblocks : blocks document definitions fields = []
    · exact .inl (embed_of_blocks_eq_nil hblocks)
    · obtain ⟨front, back, hpoint, heq, _⟩ := exists_insertionPoint hformat
      exact .inr ⟨front, back, heq, embed_of_insertionPoint hpoint hblocks⟩
  · exact .inl (embed_of_no_format hformat)

/-- The definitions that are put in have different names just if no name has two definitions. -/
theorem pairwise_not_sameName_iff :
    (blocks document definitions fields).Pairwise (fun a b => ¬ SameName a b) ↔
      ∀ f name g name' a b, (f, name) ∈ requests fields → (g, name') ∈ requests fields →
        answer document definitions f name = .block a →
        answer document definitions g name' = .block b → storedName f = storedName g → a = b := by
  constructor
  · intro hpairwise f name g name' a b hf hg ha hb hnames
    by_contra hne
    refine hpairwise.forall (mem_blocks_iff.mpr ⟨f, name, hf, ha⟩)
      (mem_blocks_iff.mpr ⟨g, name', hg, hb⟩) hne ?_
    exact ⟨storedName f, (storedUnder_iff ha).mpr rfl, (storedUnder_iff hb).mpr hnames⟩
  · intro h
    have hnodup : (blocks document definitions fields).Nodup := nodup_distinctBy_id _
    refine List.Nodup.pairwise_of_forall_ne hnodup fun a hmem b hmem' hne => ?_
    rintro ⟨stored, hstored, hstored'⟩
    obtain ⟨f, name, hf, ha⟩ := mem_blocks_iff.mp hmem
    obtain ⟨g, name', hg, hb⟩ := mem_blocks_iff.mp hmem'
    refine hne (h f name g name' a b hf hg ha hb ?_)
    rw [← (storedUnder_iff ha).mp hstored, (storedUnder_iff hb).mp hstored']

/-- None of them has the name of a definition in the document just if no request asks for that. -/
theorem new_names_iff : (∀ a ∈ blocks document definitions fields, ∀ stored,
      StoredUnder a stored → ¬ Definitions.opening stored <:+: document) ↔
    ∀ f name a, (f, name) ∈ requests fields → answer document definitions f name = .block a →
      ¬ Definitions.opening (storedName f) <:+: document := by
  constructor
  · intro h f name a hf ha
    exact h a (mem_blocks_iff.mpr ⟨f, name, hf, ha⟩) _ ((storedUnder_iff ha).mpr rfl)
  · intro h a hmem stored hstored
    obtain ⟨f, name, hf, ha⟩ := mem_blocks_iff.mp hmem
    rw [(storedUnder_iff ha).mp hstored]
    exact h f name a hf ha

/--
**When the names of embedded definitions are distinct.**

The document stays as it is or gets one group. No two definitions in the group have one name just if
no two requests are answered by different definitions of one name. None has the name of a definition
in the document just if none of the requests that are answered has. A value with neither a caret nor
a comma is the name itself, and it is then one that the document does not define.
-/
theorem names_are_distinct_iff (document : Text) (definitions : Definitions)
    (fields : List Field) :
    (embed document definitions fields = document ∨ ∃ front back, document = front ++ back ∧
      embed document definitions fields =
        front ++ group (blocks document definitions fields) ++ back) ∧
    ((blocks document definitions fields).Pairwise (fun a b => ¬ SameName a b) ↔
      ∀ f name g name' a b, (f, name) ∈ requests fields → (g, name') ∈ requests fields →
        answer document definitions f name = .block a →
        answer document definitions g name' = .block b → storedName f = storedName g → a = b) ∧
    ((∀ a ∈ blocks document definitions fields, ∀ stored, StoredUnder a stored →
        ¬ Definitions.opening stored <:+: document) ↔
      ∀ f name a, (f, name) ∈ requests fields → answer document definitions f name = .block a →
        ¬ Definitions.opening (storedName f) <:+: document) ∧
    ∀ f name a, answer document definitions f name = .block a →
      '^' ∉ f.currentValue → ',' ∉ f.currentValue →
        storedName f = f.currentValue ∧ ¬ Definitions.opening f.currentValue <:+: document := by
  refine ⟨embed_eq document definitions fields, pairwise_not_sameName_iff, new_names_iff, ?_⟩
  intro f name a ha hcaret hcomma
  exact ⟨storedName_of_not_mem hcaret hcomma, (answer_eq_block_iff.mp ha).1⟩

/--
Two images with one value get the definitions of both their graphics under it; and a value with a
format start in it is looked for before the format start is taken out.
-/
theorem name_is_defined_twice :
    let definitions : Definitions := { text := "~DGA,1,1,00\n~DGB,1,1,11\n^XA".toList }
    let first : Field :=
      { id := .found 0, kind := .image, position := ⟨1, 1⟩, templateValue := ['A']
        currentValue := ['Z'], imageName := some ['A'], embedded := true }
    let second : Field :=
      { id := .found 1, kind := .image, position := ⟨2, 2⟩, templateValue := ['B']
        currentValue := ['Z'], imageName := some ['B'], embedded := true }
    let wrapped : Field := { first with currentValue := "Z^XA".toList }
    let document := "^XA^FO1,1^XGZ,1,1^FS^FO2,2^XGZ,1,1^FS^XZ".toList
    let defining := "~DGZ,1,1,11\n^XA^FO1,1^XGZ,1,1^FS^XZ".toList
    embed document definitions [first, second] =
        "^XA\n~DGZ,1,1,00\n~DGZ,1,1,11\n^FO1,1^XGZ,1,1^FS^FO2,2^XGZ,1,1^FS^XZ".toList ∧
      SameName "~DGZ,1,1,00".toList "~DGZ,1,1,11".toList ∧
      embed defining definitions [wrapped] =
        "~DGZ,1,1,11\n^XA\n~DGZ,1,1,00\n^FO1,1^XGZ,1,1^FS^XZ".toList ∧
      Definitions.opening ['Z'] <:+: defining := by
  intro definitions first second wrapped document defining
  refine ⟨by decide +kernel, ⟨['Z'], ⟨by decide, ?_⟩, ⟨by decide, ?_⟩⟩, by decide +kernel,
    by decide +kernel⟩
  · exact ⟨"1,1,00".toList, by decide +kernel⟩
  · exact ⟨"1,1,11".toList, by decide +kernel⟩

end Embedding

end LabelTemplate
