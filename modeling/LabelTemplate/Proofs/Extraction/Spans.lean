import LabelTemplate.Proofs.Extraction.Separation
import LabelTemplate.Proofs.Statement.Closed
import LabelTemplate.Proofs.Statement.Enumeration

/-!
# The offsets of a record

A field is written by cutting the document at the offsets of its record. So these have to come in
order, to cut out just the parts of the statement, and to take in no statement end but the last one
(`Record.WellFormed`).

All of it rests on one fact: where a record starts, the document goes on with the text of the
statement, which is its parts one behind the other. What begins at a place can be cut in two, and
then each half begins at a place of its own (`of_append_prefix_drop`). That no statement ends inside
is what the search for the value keeps to (`Valid.not_infix_body`).
-/

namespace LabelTemplate

open Text Command Statement

/-! ## Specification -/

/-- The part of a text from one place up to another. -/
def Text.between (t : Text) (i j : Nat) : Text := (t.drop i).take (j - i)

namespace Record

/-- Where the coordinates start in the document. -/
def coordinatesStart (r : Record) : Nat := r.start + r.statement.coordinatesStart

/-- Where the coordinates end in the document. -/
def coordinatesEnd (r : Record) : Nat := r.start + r.statement.coordinatesEnd

/-- Where the command before the value starts in the document. -/
def dataStart (r : Record) : Nat := r.start + r.statement.dataStart

/-- Where the value starts in the document. -/
def valueStart (r : Record) : Nat := r.start + r.statement.valueStart

/-- Where the value ends in the document. -/
def valueEnd (r : Record) : Nat := r.start + r.statement.valueEnd

/-- What stands in the document from the start of the record up to its stop. -/
def span (document : Text) (r : Record) : Text := document.between r.start r.stop

/-- The offsets of a record fit each other and the document. -/
structure WellFormed (document : Text) (r : Record) : Prop where
  /-- They come in order and lie within the document. -/
  ordered : r.start < r.coordinatesStart ∧ r.coordinatesStart ≤ r.coordinatesEnd ∧
    r.coordinatesEnd < r.valueStart ∧ r.valueStart ≤ r.valueEnd ∧ r.valueEnd < r.stop ∧
    r.stop ≤ document.length
  /-- They cut out the coordinates as written, with the comma. -/
  coordinates : document.between r.coordinatesStart r.coordinatesEnd =
    r.statement.x ++ ',' :: r.statement.y
  /-- They cut out the command before the value, which stands directly in front of it. -/
  command : r.coordinatesEnd ≤ r.dataStart ∧ r.dataStart + 3 = r.valueStart ∧
    document.between r.dataStart r.valueStart = if r.kind = .image then graphicCall else fieldData
  /-- They cut out the value. -/
  value : document.between r.valueStart r.valueEnd = r.value
  /-- In a bar code or a text a `^FS` begins at one place, three characters before the stop. -/
  oneEnd : r.kind ≠ .image →
    ∀ i, fieldEnd <+: (r.span document).drop i ↔ i + 3 = (r.span document).length
  /-- In an image there is no `^FS`. -/
  noEnd : r.kind = .image → ¬ fieldEnd <:+: r.span document
  /-- The statement written again without a change is what stands in the document. -/
  unchanged : r.statement.render {} = r.span document

end Record

/-! ## Parts of a text -/

/-- What begins at a place begins in two halves, one behind the other. -/
theorem of_append_prefix_drop {a b t : Text} {i : Nat} (h : a ++ b <+: t.drop i) :
    a <+: t.drop i ∧ b <+: t.drop (i + a.length) := by
  obtain ⟨rest, hrest⟩ := h
  refine ⟨⟨b ++ rest, by rw [← List.append_assoc, hrest]⟩, rest, ?_⟩
  rw [← List.drop_drop, ← hrest, List.append_assoc, List.drop_left]

/-- What begins at a place is cut out from there over its own length. -/
theorem between_of_prefix_drop {a t : Text} {i j : Nat} (h : a <+: t.drop i)
    (hj : j = i + a.length) : t.between i j = a := by
  obtain ⟨rest, hrest⟩ := h
  rw [Text.between, hj, Nat.add_sub_cancel_left, ← hrest, List.take_left]

/-- A command that does not occur in a text occurs once when it is put behind it. -/
theorem prefix_drop_append_iff {p t : Text} (hp : IsCommand p) (h : ¬ p <:+: t) (i : Nat) :
    p <+: (t ++ p).drop i ↔ i + p.length = (t ++ p).length := by
  -- an earlier place is one of `t`, and a later one leaves too few characters
  have habsent : AbsentBefore t.length p (t ++ p) :=
    (absentBefore_iff hp (by simpa using hp.atCaret [])).mpr h
  rw [List.length_append, Nat.add_right_cancel_iff]
  constructor
  · intro hpre
    have hlength := hpre.length_le
    have hpos := List.length_pos_iff.mpr hp.ne_nil
    rw [List.length_drop, List.length_append] at hlength
    have hge : ¬ i < t.length := fun hlt => habsent i hlt hpre
    omega
  · rintro rfl
    rw [List.drop_left]

/-! ## The parts of a record -/

namespace Statement

theorem render_unchanged (s : Statement) : s.render {} = s.text := by
  simp [render, text, addsMarker]

theorem length_dataCommand (kind : FieldKind) : kind.dataCommand.length = 3 := by
  cases kind <;> rfl

/-- The text of a bar code or a text ends with the only `^FS` in it. -/
theorem Valid.fieldEnd_prefix_drop_iff {s : Statement} (hs : s.Valid) (hkind : s.kind ≠ .image)
    (i : Nat) : fieldEnd <+: s.text.drop i ↔ i + 3 = s.text.length := by
  have htext : s.text =
      s.front ++ (s.middle ++ (s.kind.dataCommand ++ s.value)) ++ fieldEnd := by
    rw [text_eq_front, closer_eq hkind]
    simp only [List.append_assoc]
  rw [htext]
  exact prefix_drop_append_iff isCommand_fieldEnd hs.not_infix_body i

/-- The text of an image has no `^FS` in it: the comma that it ends with is part of none. -/
theorem Valid.not_infix_text {s : Statement} (hs : s.Valid) (hkind : s.kind = .image) :
    ¬ fieldEnd <:+: s.text := by
  have htext : s.text =
      s.front ++ (s.middle ++ (s.kind.dataCommand ++ s.value)) ++ [','] := by
    rw [text_eq_front, hkind]
    simp only [List.append_assoc, FieldKind.closer]
  -- the comma is no character of the command, so it completes none
  have hcomma : ∀ c ∈ [','].head?, c ∉ fieldEnd.tail := by
    intro c hc
    obtain rfl := Option.some.inj hc
    decide
  rw [htext, infix_append_iff_of_head isCommand_fieldEnd.ne_nil hcomma, not_or]
  exact ⟨hs.not_infix_body, by decide⟩

/-- The parts of a bar code stand at the same places when it is read as a text. -/
theorem offsets_asText {s : Statement} (hkind : s.kind = .barcode) :
    s.asText.length = s.length ∧ s.asText.dataStart = s.dataStart ∧
      s.asText.valueStart = s.valueStart ∧ s.asText.valueEnd = s.valueEnd := by
  obtain ⟨kind, x, y, middle, value⟩ := s
  obtain rfl : kind = .barcode := hkind
  exact ⟨rfl, rfl, rfl, rfl⟩

end Statement

namespace Record

variable {kind : FieldKind} {document : Text} {r : Record}

/-- Where a record starts, the document goes on with its statement. -/
theorem text_prefix_drop (hr : r ∈ records kind document) :
    r.statement.text <+: document.drop r.start := by
  obtain ⟨before, after, rfl, hstart⟩ := exists_eq_append_of_mem_records hr
  rw [hstart, List.drop_left]
  exact List.prefix_append _ _

theorem span_eq_text (hr : r ∈ records kind document) : r.span document = r.statement.text :=
  between_of_prefix_drop (text_prefix_drop hr) (by rw [stop, length_text])

/-- The parts of the statement begin at the offsets of the record. -/
theorem parts_prefix_drop (hr : r ∈ records kind document) :
    r.statement.coordinates <+: document.drop r.coordinatesStart ∧
      r.statement.kind.dataCommand <+: document.drop r.dataStart ∧
      r.statement.value <+: document.drop r.valueStart := by
  -- the text is cut behind one part after the other, and each cut moves on by that part's length
  have htext := text_prefix_drop hr
  simp only [Statement.text, List.append_assoc] at htext
  obtain ⟨-, hbehindOpener⟩ := of_append_prefix_drop htext
  obtain ⟨hcoordinates, hbehindCoordinates⟩ := of_append_prefix_drop hbehindOpener
  obtain ⟨-, hbehindMiddle⟩ := of_append_prefix_drop hbehindCoordinates
  obtain ⟨hcommand, hbehindCommand⟩ := of_append_prefix_drop hbehindMiddle
  obtain ⟨hvalue, -⟩ := of_append_prefix_drop hbehindCommand
  simp only [Nat.add_assoc] at hcoordinates hcommand hvalue
  simp only [coordinatesStart, dataStart, valueStart, Statement.valueStart, Statement.dataStart,
    Statement.coordinatesEnd, Statement.coordinatesStart, Nat.add_assoc]
  exact ⟨hcoordinates, hcommand, hvalue⟩

/-- Every record of a document is well-formed in it. -/
theorem wellFormed (hr : r ∈ records kind document) : r.WellFormed document := by
  obtain ⟨-, hvalid⟩ := kind_valid_of_mem_records hr
  obtain ⟨hcoordinates, hcommand, hvalue⟩ := parts_prefix_drop hr
  have hspan := span_eq_text hr
  have hlength := (text_prefix_drop hr).length_le
  rw [length_text, List.length_drop] at hlength
  have hopener := List.length_pos_iff.mpr (isCommand_opener r.statement.kind).ne_nil
  have hcloser : 0 < r.statement.kind.closer.length := by cases r.statement.kind <;> decide
  have hdata := length_dataCommand r.statement.kind
  have hstatement := r.statement.length_pos
  constructor
  case ordered =>
    simp only [coordinatesStart, coordinatesEnd, valueStart, valueEnd, stop, Statement.length,
      Statement.valueEnd, Statement.valueStart, Statement.dataStart, Statement.coordinatesEnd,
      Statement.coordinatesStart] at hlength hstatement ⊢
    omega
  case coordinates => exact between_of_prefix_drop hcoordinates (Nat.add_assoc _ _ _).symm
  case command =>
    refine ⟨?_, ?_, ?_⟩
    · simp only [coordinatesEnd, dataStart, Statement.dataStart]
      omega
    · simp only [dataStart, valueStart, Statement.valueStart]
      omega
    · have hcut : document.between r.dataStart r.valueStart = r.statement.kind.dataCommand :=
        between_of_prefix_drop hcommand (Nat.add_assoc _ _ _).symm
      rw [hcut, Record.kind]
      cases r.statement.kind <;> rfl
  case value => exact between_of_prefix_drop hvalue (Nat.add_assoc _ _ _).symm
  case oneEnd =>
    intro hkind i
    rw [hspan]
    exact hvalid.fieldEnd_prefix_drop_iff hkind i
  case noEnd =>
    intro hkind
    rw [hspan]
    exact hvalid.not_infix_text hkind
  case unchanged => rw [hspan, render_unchanged]

end Record

/--
**Records are well-formed, and no record reaches over the end of a statement.**

The records of one kind follow each other without overlap. Records of different kinds can overlap;
but a bar code and a text that start at one place are the same characters, cut at the same places.
-/
theorem records_are_well_formed (document : Text) :
    (∀ kind, ∀ r ∈ records kind document, r.kind = kind ∧ r.WellFormed document) ∧
      (∀ kind, (records kind document).Pairwise fun r s => r.stop ≤ s.start) ∧
      ∀ r ∈ records .barcode document, ∀ s ∈ records .text document, r.start = s.start →
        r.stop = s.stop ∧ r.dataStart = s.dataStart ∧ r.valueStart = s.valueStart ∧
          r.valueEnd = s.valueEnd ∧ r.value = s.value := by
  refine ⟨fun kind r hr => ⟨(kind_valid_of_mem_records hr).1, Record.wellFormed hr⟩,
    fun kind => (pairwise_records kind document).imp fun h => h.1, fun r hr s hs hstart => ?_⟩
  obtain ⟨hlength, hdata, hvalueStart, hvalueEnd⟩ :=
    offsets_asText (kind_valid_of_mem_records hr).1
  simp only [Record.stop, Record.dataStart, Record.valueStart, Record.valueEnd, Record.value,
    statement_eq_asText hr hs hstart, hstart, hlength, hdata, hvalueStart, hvalueEnd, true_and]
  rfl

/-- A bar code whose data hold another data command, behind an image that ends before its call. -/
theorem records_are_well_formed_of_nested_command :
    let document := "^FO1,2^FT3,4^BCN,80^FDa^FD^FS^FO5,6^XGb,1^FS".toList
    let code : Record := ⟨0, 6, ⟨.barcode, ['3'], ['4'], "^BCN,80".toList, "a^FD".toList⟩⟩
    let text : Record := ⟨0, 6, ⟨.text, ['3'], ['4'], "^BCN,80".toList, "a^FD".toList⟩⟩
    let image : Record := ⟨0, 29, ⟨.image, ['5'], ['6'], [], ['b']⟩⟩
    (code ∈ records .barcode document ∧ text ∈ records .text document ∧
        image ∈ records .image document) ∧
      (code.WellFormed document ∧ text.WellFormed document ∧ image.WellFormed document) ∧
      code.start = text.start ∧ code.stop = text.stop ∧ code.value = text.value := by
  intro document code text image
  have hcode : code ∈ records .barcode document := by decide
  have htext : text ∈ records .text document := by decide
  have himage : image ∈ records .image document := by decide
  obtain ⟨hwellFormed, -, hsame⟩ := records_are_well_formed document
  obtain ⟨hstop, -, -, -, hvalue⟩ := hsame code hcode text htext rfl
  exact ⟨⟨hcode, htext, himage⟩, ⟨(hwellFormed _ _ hcode).2, (hwellFormed _ _ htext).2,
    (hwellFormed _ _ himage).2⟩, rfl, hstop, hvalue⟩

end LabelTemplate
