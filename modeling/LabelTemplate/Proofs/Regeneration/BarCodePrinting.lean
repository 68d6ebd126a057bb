import LabelTemplate.Proofs.Regeneration.Printing
import LabelTemplate.Proofs.Regeneration.Splice
import Mathlib.Data.List.Count

/-!
# What a regenerated bar code prints

The code of a bar code is written with its letters escaped by the default escape character,
whatever the statement says: the character itself is not escaped, no hex marker is put in, and
one that is there is not looked at. So it depends on the statement whether the printer reads
the code that was meant. `Printer.Unharmed` says when it does.

Behind a marker that names the default character the printer reads an escaped letter and the
letter itself alike (`readEscaped_escapeLetters`), so only an escape within the code does harm.
With any other character, or none, the escape of a letter is printed as it stands. That cannot
go unnoticed: each escaped letter leaves an underscore more than there was
(`count_lt_count_escapeLetters`), and no other escape takes one away
(`count_le_count_readEscaped`).
-/

namespace LabelTemplate

open Scan Command Statement

namespace CodePage

/-- A hexadecimal digit is never written by its code. -/
theorem code?_of_hexValue? {c : Char} {h : Nat} (hc : hexValue? c = some h) : code? c = none := by
  have hall : ∀ entry ∈ codes, hexValue? entry.1 = none := by decide
  refine Option.eq_none_iff_forall_ne_some.mpr fun code hcode => ?_
  obtain ⟨⟨d, code'⟩, hfind, rfl⟩ := Option.map_eq_some_iff.mp hcode
  obtain rfl : d = c := by simpa using List.find?_some hfind
  rw [hall _ (List.mem_of_find?_eq_some hfind)] at hc
  exact absurd hc (by simp)

theorem escapeLetters_cons (escape : Text) (c : Char) (t : Text) :
    escapeLetters escape (c :: t) = escapeLetter escape c ++ escapeLetters escape t :=
  List.flatMap_cons

theorem escapeLetters_cons_of_none {escape : Text} {c : Char} (h : code? c = none) (t : Text) :
    escapeLetters escape (c :: t) = c :: escapeLetters escape t := by
  rw [escapeLetters_cons, escapeLetter, h]
  rfl

theorem escapeLetters_cons_of_some {escape : Text} {c : Char} {code : Nat}
    (h : code? c = some code) (t : Text) :
    escapeLetters escape (c :: t) = escape ++ Text.hex 2 code ++ escapeLetters escape t := by
  rw [escapeLetters_cons, escapeLetter, h]

/-- Where no letter is written by its code, the text is written as it is. -/
theorem escapeLetters_eq_self {escape t : Text} (h : ∀ c ∈ t, code? c = none) :
    escapeLetters escape t = t := by
  induction t with
  | nil => rfl
  | cons c t ih =>
      rw [List.forall_mem_cons] at h
      rw [escapeLetters_cons_of_none h.1, ih h.2]

/-- What begins with a hexadecimal digit once it is written began with it before. -/
theorem exists_of_escapeLetters_eq_cons {t rest : Text} {c : Char} {h : Nat}
    (hc : hexValue? c = some h) (heq : escapeLetters [defaultEscape] t = c :: rest) :
    ∃ t', t = c :: t' ∧ rest = escapeLetters [defaultEscape] t' := by
  cases t with
  | nil => exact absurd heq (by simp [escapeLetters])
  | cons d t =>
      cases hd : code? d with
      | none =>
          rw [escapeLetters_cons_of_none hd] at heq
          obtain ⟨rfl, rfl⟩ := List.cons.inj heq
          exact ⟨t, rfl, rfl⟩
      | some code =>
          -- an escaped letter begins with an underscore
          rw [escapeLetters_cons_of_some hd] at heq
          rw [← (List.cons.inj heq).1, show hexValue? defaultEscape = none by decide] at hc
          exact absurd hc (by simp)

theorem ne_defaultEscape {c : Char} {code : Nat} (h : code? c = some code) : c ≠ defaultEscape := by
  rintro rfl
  rw [show code? defaultEscape = none by decide] at h
  exact absurd h (by simp)

theorem count_le_count_escapeLetters (t : Text) :
    t.count defaultEscape ≤ (escapeLetters [defaultEscape] t).count defaultEscape := by
  induction t with
  | nil => exact Nat.le_refl _
  | cons c t ih =>
      cases hc : code? c with
      | none =>
          rw [escapeLetters_cons_of_none hc, List.count_cons, List.count_cons]
          omega
      | some code =>
          rw [escapeLetters_cons_of_some hc, List.append_assoc, List.count_append,
            List.count_append, List.count_cons_of_ne (ne_defaultEscape hc)]
          omega

/-- Every letter that is written by its code brings in an escape character. -/
theorem count_lt_count_escapeLetters {t : Text} {c : Char} (hmem : c ∈ t) (hc : code? c ≠ none) :
    t.count defaultEscape < (escapeLetters [defaultEscape] t).count defaultEscape := by
  obtain ⟨before, after, rfl⟩ := List.append_of_mem hmem
  obtain ⟨code, hcode⟩ := Option.ne_none_iff_exists'.mp hc
  have hbefore := count_le_count_escapeLetters before
  have hafter := count_le_count_escapeLetters after
  have hsplit : escapeLetters [defaultEscape] (before ++ c :: after) =
      escapeLetters [defaultEscape] before ++ ([defaultEscape] ++ Text.hex 2 code ++
        escapeLetters [defaultEscape] after) := by
    rw [escapeLetters, List.flatMap_append, ← escapeLetters, ← escapeLetters,
      escapeLetters_cons_of_some hcode]
  rw [hsplit, List.count_append, List.count_append, List.count_append, List.count_append,
    List.count_cons_of_ne (ne_defaultEscape hcode), List.count_singleton_self]
  omega

end CodePage

namespace Printer

/-! ## Reading a code whose letters are escaped -/

/-- **The default character reads an escaped letter and the letter itself alike.** -/
theorem readEscaped_escapeLetters (t : Text) :
    readEscaped defaultEscape (CodePage.escapeLetters [defaultEscape] t) =
      readEscaped defaultEscape t := by
  induction t using (exact_escapeCode defaultEscape).induction with
  | nil => rfl
  | plain c cs h ih =>
      cases hc : CodePage.code? c with
      | some code =>
          obtain ⟨hlt, hglyph⟩ := glyphOf_code hc
          have hread := @readEscaped_hex defaultEscape _ hlt
            (CodePage.escapeLetters [defaultEscape] cs)
          rw [CodePage.escapeLetters_cons_of_some hc, readEscaped_cons h, ← ih, ← hglyph]
          exact hread
      | none =>
          rw [CodePage.escapeLetters_cons_of_none hc, readEscaped_cons h, readEscaped_cons, ih]
          -- digits that stand behind the character now stood there before
          refine Option.eq_none_iff_forall_ne_some.mpr fun ⟨code, n⟩ hcode => ?_
          obtain ⟨high, low, hv, lv, rest, heq, hhigh, hlow, -, -⟩ :=
            escapeCode_eq_some_iff.mp hcode
          obtain ⟨rfl, hcs⟩ := List.cons.inj heq
          obtain ⟨cs', rfl, hcs'⟩ := CodePage.exists_of_escapeLetters_eq_cons hhigh hcs
          obtain ⟨cs'', rfl, -⟩ := CodePage.exists_of_escapeLetters_eq_cons hlow hcs'.symm
          exact Option.eq_none_iff_forall_ne_some.mp h (16 * hv + lv, 3)
            (escapeCode_eq_some_iff.mpr ⟨high, low, hv, lv, cs'', rfl, hhigh, hlow, rfl, rfl⟩)
  | hit t code n h ih =>
      obtain ⟨high, low, hv, lv, rest, rfl, hhigh, hlow, rfl, rfl⟩ := escapeCode_eq_some_iff.mp h
      rw [CodePage.escapeLetters_cons_of_none (by decide),
        CodePage.escapeLetters_cons_of_none (CodePage.code?_of_hexValue? hhigh),
        CodePage.escapeLetters_cons_of_none (CodePage.code?_of_hexValue? hlow),
        readEscaped_escape hhigh hlow, readEscaped_escape hhigh hlow]
      exact congrArg _ ih

/-- Nothing but an escape changes what is printed. -/
theorem readEscaped_eq_map_iff {escape : Char} {t : Text} :
    readEscaped escape t = t.map .letter ↔ ¬ HasEscape escape t := by
  refine ⟨fun heq hhas => ?_, readEscaped_of_not_hasEscape⟩
  have hlt := (length_readEscaped escape t).2 hhas
  rw [heq, List.length_map] at hlt
  omega

/-- An escape takes away only its own character and hexadecimal digits. -/
theorem count_le_count_readEscaped {escape c : Char} (hne : c ≠ escape) (hc : hexValue? c = none)
    (t : Text) : t.count c ≤ (readEscaped escape t).count (.letter c) := by
  induction t using (exact_escapeCode escape).induction with
  | nil => exact Nat.le_refl _
  | plain d t h ih =>
      rw [readEscaped_cons h, List.count_cons, List.count_cons]
      have hbeq : ((Glyph.letter d == Glyph.letter c) = true) ↔ (d == c) = true := by simp
      simp only [hbeq]
      omega
  | hit t code n h ih =>
      rw [readEscaped_of_some h]
      obtain ⟨high, low, _, _, rest, rfl, hhigh, hlow, _, rfl⟩ := escapeCode_eq_some_iff.mp h
      have hnot : ∀ {d : Char} {v : Nat}, hexValue? d = some v → d ≠ c := by
        rintro d v hd rfl
        rw [hc] at hd
        exact absurd hd (by simp)
      rw [List.count_cons_of_ne hne.symm, List.count_cons_of_ne (hnot hhigh),
        List.count_cons_of_ne (hnot hlow)]
      exact ih.trans (List.count_le_count_cons)

/-- A code that is printed as it was meant behind this marker, or without one. -/
def Unharmed (marker : Option Char) (code : Text) : Prop :=
  (∀ escape ∈ marker, ¬ HasEscape escape code) ∧
    (marker = some defaultEscape ∨ ∀ c ∈ code, CodePage.code? c = none)

-- the instances are named, as others would try all characters there are
instance (marker : Option Char) (code : Text) : Decidable (Unharmed marker code) :=
  @instDecidableAnd _ _ (Option.decidableForallMem marker)
    (@instDecidableOr _ _ inferInstance (List.decidableBAll _ code))

theorem count_le_count_read {marker : Option Char} (h : marker ≠ some defaultEscape) (t : Text) :
    t.count defaultEscape ≤ (read marker t).count (.letter defaultEscape) := by
  cases marker with
  | none => exact (List.count_map_of_injective t _ (fun _ _ => Glyph.letter.inj) _).ge
  | some escape =>
      exact count_le_count_readEscaped (fun heq => h (congrArg some heq.symm)) (by decide) t

theorem read_eq_map_iff {marker : Option Char} {t : Text} :
    read marker t = t.map .letter ↔ ∀ escape ∈ marker, ¬ HasEscape escape t := by
  cases marker with
  | none => simp [read]
  | some escape => simp [read, readEscaped_eq_map_iff]

/-- **When the printer reads a code back from its escaped letters.** -/
theorem read_escapeLetters_eq_map_iff {marker : Option Char} {code : Text} :
    read marker (CodePage.escapeLetters [defaultEscape] code) = code.map .letter ↔
      Unharmed marker code := by
  by_cases hmarker : marker = some defaultEscape
  · subst hmarker
    have hread := readEscaped_escapeLetters code
    simp only [Unharmed, read, hread, readEscaped_eq_map_iff, Option.mem_some_iff, forall_eq',
      true_or, and_true]
  · by_cases hletters : ∀ c ∈ code, CodePage.code? c = none
    · rw [CodePage.escapeLetters_eq_self hletters, read_eq_map_iff]
      exact ⟨fun h => ⟨h, Or.inr hletters⟩, And.left⟩
    · -- the escape of a letter is printed, with its underscore
      refine iff_of_false (fun heq => ?_) fun h => h.2.elim hmarker hletters
      push Not at hletters
      obtain ⟨c, hmem, hc⟩ := hletters
      have hlt := CodePage.count_lt_count_escapeLetters hmem hc
      have hle := count_le_count_read hmarker (CodePage.escapeLetters [defaultEscape] code)
      rw [heq, List.count_map_of_injective code _ (fun _ _ => Glyph.letter.inj)] at hle
      omega

end Printer

namespace Regeneration

/-- What is written at the place of a kept record stands in the new text. -/
theorem Splices.exists_eq_append {write : Record → Text} {offset : Nat} {t out : Text}
    {rs : List Record} (h : Splices write offset t rs out) {r : Record} (hr : r ∈ rs) :
    ∃ before after, out = before ++ (write r ++ after) := by
  induction h with
  | done => exact absurd hr (by simp)
  | @next _ gap rest out r' rs _ _ ih =>
      rcases List.mem_cons.mp hr with rfl | hr
      · exact ⟨gap, out, rfl⟩
      · obtain ⟨before, after, rfl⟩ := ih hr
        exact ⟨gap ++ (write r' ++ before), after, by simp⟩

theorem exists_eq_append_of_mem_kept {remap : Bool} {document : Text} {fields : List Field}
    {r : Record} (hr : r ∈ keptGreedily (changedRecords document fields)) :
    ∃ before after, regenerate remap document fields =
      before ++ (rewritten remap fields r ++ after) := by
  have hchanged := (keptAfter_sublist _ _).subset hr
  obtain ⟨hr', hsome⟩ := mem_changedRecords_iff.mp hchanged
  have hdocument : document ≠ [] := by
    rintro rfl
    exact absurd hr' (by simp [show eligibleRecords [] = [] from rfl])
  have hfields : fields ≠ [] := by
    obtain ⟨f, hf⟩ := Option.isSome_iff_exists.mp hsome
    exact List.ne_nil_of_mem (of_modifiedField?_eq_some hf).1
  exact (splices_regenerate remap hdocument hfields).exists_eq_append
    ((List.mergeSort_perm _ _).mem_iff.mpr hr)

/--
**A regenerated bar code prints the user's code if its marker leaves the code unharmed.**

Let the fields of a template be edited in any way and given in any order, and let one that was
found at a bar code have a new value without carets. Then there is a replacement for the bar
code's record, and where that record is kept the regenerated document has it. Scanned by itself
the replacement is one statement and nothing else. Everything between its coordinates and its
data is as it was; the data is the new value with its accented letters escaped by the default
character; and what the printer reads from the data is the new value exactly if the value is
unharmed behind the statement's own hex marker, or without one.
-/
theorem barcode_prints_current_value_iff {document : Text} {edits : Field → List Field.Edit}
    {fields : List Field}
    (hfields : fields.Perm ((Extraction.fields document).map fun f => f.edited (edits f)))
    {r : Record} (hr : r ∈ eligibleRecords document) (hkind : r.kind = .barcode) {f g : Field}
    (hf : f ∈ Extraction.fields document) (hat : FoundAt r f) (hg : g = f.edited (edits f))
    (hvalue : g.currentValue ≠ g.templateValue) (hcaret : '^' ∉ g.currentValue)
    (hshort : ∀ p ∈ g.movedTo?, p.Short) :
    ∃ replacement ∈ replacements true document fields,
      replacement.start = r.start ∧ replacement.stop = r.stop ∧
      (r ∈ keptGreedily (changedRecords document fields) →
        ∃ before after, regenerate true document fields =
          before ++ (replacement.text ++ after)) ∧
      ∃ s, records .barcode replacement.text = [{ ordinal := 0, start := 0, statement := s }] ∧
        s.text = replacement.text ∧ s.middle = r.statement.middle ∧
        s.value = CodePage.escapeLetters [defaultEscape] g.currentValue ∧
        (s.printed = g.currentValue.map .letter ↔
          Printer.Unharmed (markerEscape? r.statement.middle) g.currentValue) := by
  subst hg
  have hedited : (f.edited (edits f)).isEdited = true := by simpa [Field.isEdited] using hvalue
  have hfield := modifiedField?_of_foundAt hfields hr hf hat (by simp [Field.isModified, hedited])
  have hvalid := (kind_valid_of_mem_records
    (mem_allRecords_iff.mp (mem_eligibleRecords_iff.mp hr).1)).2
  replace hkind : r.statement.kind = .barcode := hkind
  generalize f.edited (edits f) = g at *
  have hwritten : (changeOf true r.statement g).value =
      some (CodePage.escapeLetters [defaultEscape] g.currentValue) := by
    simp [changeOf, hedited, written, hkind]
  -- no marker is asked for, so the middle stays
  have hensure : (changeOf true r.statement g).ensureHex = false := by simp [changeOf, hkind]
  have hadmissible : (changeOf true r.statement g).Admissible r.statement.kind := by
    refine ⟨fun v hv => ?_, hshort⟩
    obtain rfl := Option.some.inj (hwritten.symm.trans hv)
    rw [hkind]
    exact isCommand_fieldEnd.not_infix_of_not_mem
      (CodePage.not_mem_escapeLetters (by decide) hcaret)
  have hrevised := hvalid.revised hadmissible
  have hmiddle : (r.statement.revised (changeOf true r.statement g)).middle =
      r.statement.middle := by
    simp [revised, addsMarker, hensure]
  have hdata : (r.statement.revised (changeOf true r.statement g)).value =
      CodePage.escapeLetters [defaultEscape] g.currentValue := by
    simp [revised, hwritten]
  refine ⟨_, replacement_mem_replacements hr hfield, rfl, rfl, fun hkept => ?_,
    r.statement.revised (changeOf true r.statement g), ?_, text_revised _ _, hmiddle, hdata, ?_⟩
  · have hspliced := @exists_eq_append_of_mem_kept true _ _ _ hkept
    rwa [rewritten, hfield] at hspliced
  · rw [← text_revised, ← hrevised.records_text]
    exact congrArg (records · _) hkind.symm
  · rw [printed, hmiddle, hdata]
    exact Printer.read_escapeLetters_eq_map_iff

/-- A letter and an underscore behind a marker that names no character: both are printed. -/
theorem barcode_prints_current_value_iff_of_marker :
    let document := "^FT1,2^BCN,80^FH^FDa^FS".toList
    let edits : Field → List Field.Edit := fun _ => [.value "_é_4".toList, .position ⟨3, -4⟩]
    let fields := (Extraction.fields document).map fun f => f.edited (edits f)
    let r : Record := ⟨0, 0, ⟨.barcode, ['1'], ['2'], "^BCN,80^FH".toList, ['a']⟩⟩
    r ∈ keptGreedily (changedRecords document fields) ∧
      ∃ replacement ∈ replacements true document fields,
        ∃ s, records .barcode replacement.text = [{ ordinal := 0, start := 0, statement := s }] ∧
          s.printed = "_é_4".toList.map .letter := by
  intro document edits fields r
  have hr : r ∈ eligibleRecords document := by decide
  have hf : Extraction.fieldOf (.found 0) r ⟨1, 2⟩ ∈ Extraction.fields document := by decide
  have hat : FoundAt r (Extraction.fieldOf (.found 0) r ⟨1, 2⟩) := ⟨0, ⟨1, 2⟩, by decide, rfl⟩
  obtain ⟨replacement, hmem, _, _, _, s, hrecords, _, _, _, hread⟩ :=
    @barcode_prints_current_value_iff document edits fields (List.Perm.refl fields) r hr rfl _ _
      hf hat rfl (by decide) (by decide) (by decide)
  exact ⟨by decide, replacement, hmem, s, hrecords, hread.mpr (by decide)⟩

/--
Without a marker the escape of a letter is printed as it stands, behind one an underscore and
two digits are printed as another letter, and a marker with a character of its own does not read
what was escaped with the default.
-/
theorem barcode_prints_other_code :
    let printed := fun (document value : Text) =>
      (records .barcode (regenerate true document
        ((Extraction.fields document).map (·.withValue value)))).map fun r => r.statement.printed
    printed "^FT1,2^BCN,80^FDa^FS".toList ['é'] = [[.letter '_', .letter '8', .letter '2']] ∧
      printed "^FT1,2^BCN,80^FH^FDa^FS".toList "_41".toList = [[.letter 'A']] ∧
      printed "^FT1,2^BCN,80^FH!^FDa^FS".toList ['é'] =
        [[.letter '_', .letter '8', .letter '2']] := by
  decide +kernel

end Regeneration

end LabelTemplate
