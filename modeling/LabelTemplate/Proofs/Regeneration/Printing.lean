import LabelTemplate.Proofs.Printer.Reading
import LabelTemplate.Proofs.Regeneration.Binding
import LabelTemplate.Proofs.Statement.Revision
import LabelTemplate.Proofs.Text.Escape

/-!
# What a regenerated text prints

The value of a text is escaped with the statement's own escape character, and the printer
reads it with the character that the statement, as it is written, names first. Three cases
make these the same. A statement with a hex marker keeps it, and with it the character. One
without gets a marker if anything had to be escaped, and the marker stands at the end of the
middle, so it names none and the default counts on both sides. And if nothing had to be escaped,
the text is written as it is and read as it is.
-/

namespace LabelTemplate

open Scan Command

namespace Statement

theorem ownEscape?_eq {s : Statement} (hkind : s.kind = .text) :
    s.ownEscape? = markerEscape? s.middle := by
  rw [ownEscape?, hkind]

/-- The marker and the escape character of a statement say what its own choice is. -/
theorem ite_hasHexMarker (s : Statement) :
    (if s.hasHexMarker = true then some s.escape else none) = s.ownEscape? := by
  cases h : s.ownEscape? with
  | none => simp [hasHexMarker, h]
  | some e => simp [hasHexMarker, escape, h]

/-- A statement scanned by itself is the only record. -/
theorem Valid.records_text {s : Statement} (hs : s.Valid) :
    records s.kind s.text = [{ ordinal := 0, start := 0, statement := s }] := by
  have hpieces := hs.pieces_append []
  rw [List.append_nil] at hpieces
  rw [records_eq, hpieces, pieces_nil, recordsFrom_hit, recordsFrom_nil]

/-- **The printer reads an encoded value back from the statement it is written into.** -/
theorem read_revised {s : Statement} (hkind : s.kind = .text) (hascii : isAscii s.escape = true)
    {change : Change} {v : Text} (hvalue : change.value = some (CodePage.encode s.escape v))
    (hensure : change.ensureHex =
      CodePage.needsMarker [s.escape] (CodePage.encode s.escape v)) :
    Printer.read (s.revised change).ownEscape? (s.revised change).value = v.map .letter := by
  have hwritten : (s.revised change).value = CodePage.encode s.escape v := by
    simp [revised, hvalue]
  rw [hwritten, ownEscape?_eq (show (s.revised change).kind = .text from hkind)]
  cases hown : s.ownEscape? with
  | some e =>
      -- the marker that is there stays the first one
      have hadds : s.addsMarker change = false := by simp [addsMarker, hasHexMarker, hown]
      have hmiddle : (s.revised change).middle = s.middle := by simp [revised, hadds]
      have hescape : s.escape = e := by simp [escape, hown]
      rw [hmiddle, ← ownEscape?_eq hkind, hown, hescape]
      exact Printer.readEscaped_encode (hescape ▸ hascii) v
  | none =>
      have hnone : markerEscape? s.middle = none := by rw [← ownEscape?_eq hkind, hown]
      have hescape : s.escape = defaultEscape := by simp [escape, hown]
      rw [hescape] at hensure ⊢
      cases hneeds : CodePage.needsMarker [defaultEscape] (CodePage.encode defaultEscape v) with
      | true =>
          have hadds : s.addsMarker change = true := by
            simp [addsMarker, hasHexMarker, hown, hensure, hneeds, hkind]
          have hmiddle : (s.revised change).middle = s.middle ++ hexMarker := by
            simp [revised, hadds]
          rw [hmiddle, markerEscape?_append_hexMarker, hnone]
          exact Printer.readEscaped_encode (by decide) v
      | false =>
          have hadds : s.addsMarker change = false := by simp [addsMarker, hensure, hneeds]
          have hmiddle : (s.revised change).middle = s.middle := by simp [revised, hadds]
          have hplain : defaultEscape ∉ CodePage.encode defaultEscape v := by
            rw [CodePage.needsMarker, Text.contains, Option.isSome_eq_false_iff,
              Option.isNone_iff_eq_none, Text.cut?_eq_none_iff (by simp)] at hneeds
            intro hmem
            obtain ⟨a, b, hab⟩ := List.append_of_mem hmem
            exact hneeds ⟨a, b, by simp [hab]⟩
          rw [hmiddle, hnone, Printer.encode_eq_self hplain]
          rfl

end Statement

namespace Regeneration

section

variable {document : Text} {edits : Field → List Field.Edit} {fields : List Field} {r : Record}
  {f : Field}

theorem nodup_keys_of_perm_edited
    (hfields : fields.Perm ((Extraction.fields document).map fun f => f.edited (edits f))) :
    (fields.map Field.key).Nodup := by
  have hkeys : ((Extraction.fields document).map fun f => f.edited (edits f)).map Field.key =
      (eligibleRecords document).map Record.key := by
    rw [List.map_map, ← map_key_fields]
    exact List.map_congr_left fun f _ => (f.key_templateValue_edited (edits f)).1
  rw [(hfields.map Field.key).nodup_iff, hkeys]
  exact nodup_keys_eligibleRecords document

/-- A record is written again for the field that was found at it, if that was changed. -/
theorem modifiedField?_of_foundAt
    (hfields : fields.Perm ((Extraction.fields document).map fun f => f.edited (edits f)))
    (hr : r ∈ eligibleRecords document) (hf : f ∈ Extraction.fields document) (hat : FoundAt r f)
    (hmodified : (f.edited (edits f)).isModified = true) :
    modifiedField? fields r = some (f.edited (edits f)) := by
  obtain ⟨hkey, hvalue⟩ := f.key_templateValue_edited (edits f)
  have hmem : f.edited (edits f) ∈ fields :=
    hfields.mem_iff.mpr (List.mem_map.mpr ⟨f, hf, rfl⟩)
  rw [modifiedField?_of_mem_eligibleRecords hr,
    resolve?_eq_some_of_key (nodup_keys_of_perm_edited hfields) hmem (hkey.trans hat.key_eq)
      (hvalue.trans hat.value_eq.1)]
  simp [hmodified]

theorem replacement_mem_replacements {remap : Bool} {g : Field} (hr : r ∈ eligibleRecords document)
    (hg : modifiedField? fields r = some g) :
    { start := r.start, stop := r.stop,
      text := r.statement.render (changeOf remap r.statement g) } ∈
        replacements remap document fields := by
  rw [replacements_eq_filterMap, List.mem_filterMap]
  exact ⟨r, hr, by rw [replacement?, hg]; rfl⟩

end

/--
**A regenerated text prints the user's text.**

Let the fields of a template be edited in any way and given in any order, and let one that was
found at a text have a new value without carets. Then there is a replacement for the text's
record. Scanned by itself it is one statement and nothing else, and what the printer reads
from the data of that statement, by the statement's own marker and escape character, is the new
value.
-/
theorem text_prints_current_value {document : Text} {edits : Field → List Field.Edit}
    {fields : List Field}
    (hfields : fields.Perm ((Extraction.fields document).map fun f => f.edited (edits f)))
    {r : Record} (hr : r ∈ eligibleRecords document) (hkind : r.kind = .text)
    (hascii : isAscii r.statement.escape = true) {f g : Field}
    (hf : f ∈ Extraction.fields document) (hat : FoundAt r f) (hg : g = f.edited (edits f))
    (hvalue : g.currentValue ≠ g.templateValue) (hcaret : '^' ∉ g.currentValue)
    (hshort : ∀ p ∈ g.movedTo?, p.Short) :
    ∃ replacement ∈ replacements true document fields,
      replacement.start = r.start ∧ replacement.stop = r.stop ∧
      ∃ s, records .text replacement.text = [{ ordinal := 0, start := 0, statement := s }] ∧
        s.text = replacement.text ∧
        Printer.read (if s.hasHexMarker = true then some s.escape else none) s.value =
          g.currentValue.map .letter := by
  subst hg
  have hedited : (f.edited (edits f)).isEdited = true := by simpa [Field.isEdited] using hvalue
  have hfield := modifiedField?_of_foundAt hfields hr hf hat (by simp [Field.isModified, hedited])
  have hvalid := (kind_valid_of_mem_records
    (mem_allRecords_iff.mp (mem_eligibleRecords_iff.mp hr).1)).2
  replace hkind : r.statement.kind = .text := hkind
  generalize f.edited (edits f) = g at *
  have hwritten : (changeOf true r.statement g).value =
      some (CodePage.encode r.statement.escape g.currentValue) := by
    simp [changeOf, hedited, written, hkind]
  have hensure : (changeOf true r.statement g).ensureHex =
      CodePage.needsMarker [r.statement.escape]
        (CodePage.encode r.statement.escape g.currentValue) := by
    simp [changeOf, hedited, written, hkind]
  -- the encoded value has no caret, so it does not end the statement early
  have hadmissible : (changeOf true r.statement g).Admissible r.statement.kind := by
    refine ⟨fun v hv => ?_, hshort⟩
    obtain rfl := Option.some.inj (hwritten.symm.trans hv)
    rw [hkind]
    exact isCommand_fieldEnd.not_infix_of_not_mem
      (CodePage.not_mem_encode r.statement.escape_ne_caret hcaret)
  have hrevised := hvalid.revised hadmissible
  refine ⟨_, replacement_mem_replacements hr hfield, rfl, rfl,
    r.statement.revised (changeOf true r.statement g), ?_, Statement.text_revised _ _, ?_⟩
  · rw [← Statement.text_revised, ← hrevised.records_text]
    exact congrArg (records · _) hkind.symm
  · rw [Statement.ite_hasHexMarker]
    exact Statement.read_revised hkind hascii hwritten hensure

/-- A text with an escape of its own, moved, with a new value of letters that have to be escaped. -/
theorem text_prints_current_value_of_own_escape :
    let document := "^FT1,2^FH5^FDa^FS".toList
    let edits : Field → List Field.Edit := fun _ => [.value "é541\\_41".toList, .position ⟨3, -4⟩]
    let fields := (Extraction.fields document).map fun f => f.edited (edits f)
    let r : Record := ⟨0, 0, ⟨.text, ['1'], ['2'], ['^', 'F', 'H', '5'], ['a']⟩⟩
    r ∈ eligibleRecords document ∧ r.statement.escape = '5' ∧
      ∃ replacement ∈ replacements true document fields,
        ∃ s, records .text replacement.text = [{ ordinal := 0, start := 0, statement := s }] ∧
          Printer.read (if s.hasHexMarker = true then some s.escape else none) s.value =
            "é541\\_41".toList.map .letter := by
  intro document edits fields r
  have hr : r ∈ eligibleRecords document := by decide
  have hf : Extraction.fieldOf (.found 0) r ⟨1, 2⟩ ∈ Extraction.fields document := by decide
  have hat : FoundAt r (Extraction.fieldOf (.found 0) r ⟨1, 2⟩) := ⟨0, ⟨1, 2⟩, by decide, rfl⟩
  obtain ⟨replacement, hmem, _, _, s, hrecords, _, hread⟩ :=
    @text_prints_current_value document edits fields (List.Perm.refl fields) r hr rfl (by decide) _ _
      hf hat rfl (by decide) (by decide) (by decide)
  exact ⟨hr, by decide, replacement, hmem, s, hrecords, hread⟩

end Regeneration

end LabelTemplate
