import LabelTemplate.Proofs.Cleaning.PrintedStatements

/-!
# Markers and printed digits keep the fields

Two steps of the cleaning write into statements: one puts hex markers in, the other changes the
flags of bar codes. With either, the statements of each kind correspond one to one to those there
were, in the same order and with the same coordinates. So the same numbers, the same bar codes and
the same unreadable coordinates are found, and the fields are the same but for values that the step
wrote into: those with a data command for the one, those with an EAN-13 command for the other.
-/

namespace LabelTemplate

/-- A statement with the same coordinates, and the same value if a command is not in it. -/
structure Statement.KeptUnless (word : Text) (s s' : Statement) : Prop where
  /-- The kind stays. -/
  kind : s'.kind = s.kind
  /-- The first coordinate stays. -/
  x : s'.x = s.x
  /-- The second coordinate stays. -/
  y : s'.y = s.y
  /-- The value stays without the command. -/
  value : ¬ word <:+: s.value → s'.value = s.value

/-- A field at the same place, with the same value if a command is not in it. -/
structure Field.KeptUnless (word : Text) (f f' : Field) : Prop where
  /-- The kind stays. -/
  kind : f'.kind = f.kind
  /-- The position stays. -/
  position : f'.position = f.position
  /-- The number of the statement stays. -/
  sourceOrdinal : f'.sourceOrdinal = f.sourceOrdinal
  /-- The value stays without the command. -/
  templateValue : ¬ word <:+: f.templateValue → f'.templateValue = f.templateValue

namespace Cleaning

open Command Scan Statement

/-- A record with the number it had, of a statement that is kept. -/
def RecordKeptUnless (word : Text) (r r' : Record) : Prop :=
  r'.ordinal = r.ordinal ∧ r.statement.KeptUnless word r'.statement

namespace RecordKeptUnless

variable {word : Text} {r r' : Record}

theorem kind_eq (h : RecordKeptUnless word r r') : r'.kind = r.kind := h.2.kind

theorem position?_eq (h : RecordKeptUnless word r r') : r'.position? = r.position? := by
  rw [Record.position?, Record.position?, position?, position?, h.2.x, h.2.y]

/-- A record that gives a warning gives the same one. -/
theorem message_eq (h : RecordKeptUnless word r r') :
    (Warning.unreadableCoordinates r').message = (Warning.unreadableCoordinates r).message := by
  unfold Warning.message
  dsimp only
  rw [h.1, h.kind_eq, h.2.x, h.2.y]

theorem field {f f' : Field} (h : RecordKeptUnless word r r') (hat : FoundAt r f)
    (hat' : FoundAt r' f') : f.KeptUnless word f' := by
  obtain ⟨number, p, hp, rfl⟩ := hat
  obtain ⟨number', p', hp', rfl⟩ := hat'
  rw [h.position?_eq, hp] at hp'
  exact ⟨h.kind_eq, (Option.some.inj hp').symm, congrArg Int.ofNat h.1, h.2.value⟩

end RecordKeptUnless

/-- **Where statements are kept, fields and warnings are.** -/
theorem fields_warnings_of_kept {word t u : Text}
    (h : ∀ kind, List.Forall₂ (Statement.KeptUnless word) (found (recognise kind) t)
      (found (recognise kind) u)) :
    List.Forall₂ (Field.KeptUnless word) (Extraction.fields t) (Extraction.fields u) ∧
      (Extraction.warnings u).map Warning.message =
        (Extraction.warnings t).map Warning.message := by
  have hrecords : ∀ kind, List.Forall₂ (RecordKeptUnless word) (records kind t) (records kind u) :=
    fun kind => forall₂_records_of_found (h kind)
  constructor
  · have heligible := forall₂_eligibleRecords_of_records hrecords
      (fun _ _ h => h.kind_eq) fun _ _ h => h.position?_eq
    refine (forall₂_fields_of_eligibleRecords heligible).imp ?_
    rintro f f' ⟨r, -, r', hkept, hat, hat'⟩
    exact hkept.field hat hat'
  · exact map_message_warnings_of_forall₂ (forall₂_allRecords_of_records hrecords)
      (fun _ _ h => h.position?_eq) fun _ _ h => h.message_eq

theorem forall₂_kept_ensureHexMarkers (kind : FieldKind) (t : Text) :
    List.Forall₂ (Statement.KeptUnless Command.fieldData) (found (recognise kind) t)
      (found (recognise kind) (ensureHexMarkers t)) := by
  by_cases hkind : kind = .image
  · subst hkind
    refine (forall₂_found_addMarkers_image [] t).imp ?_
    rintro s s' ⟨seen, rfl⟩
    exact ⟨rfl, rfl, rfl, fun _ => rfl⟩
  · refine (forall₂_found_addMarkers hkind [] t).imp ?_
    rintro s s' ⟨seen, rfl⟩
    exact ⟨rfl, rfl, rfl, fun hvalue => addMarkers_eq_self hvalue _⟩

theorem forall₂_kept_forceInterpretationLine (kind : FieldKind) (t : Text) :
    List.Forall₂ (Statement.KeptUnless ean13) (found (recognise kind) t)
      (found (recognise kind) (forceInterpretationLine t)) := by
  refine (forall₂_found_forceInterpretationLine kind t).imp ?_
  rintro s s' rfl
  exact ⟨rfl, rfl, rfl, forceInterpretationLine_eq_self⟩

/--
**Markers and printed digits keep the fields.**

With missing hex markers put in, and with the digits of bar codes printed, the fields of a document
are found in the same order, each with its kind, its position and its number, and with its value
if the value has no data command, or no EAN-13 command. The statements that are warned of are the
same too, and the warnings read alike.
-/
theorem fields_are_kept (document : Text) :
    (List.Forall₂ (Field.KeptUnless Command.fieldData) (Extraction.fields document)
        (Extraction.fields (ensureHexMarkers document)) ∧
      (Extraction.warnings (ensureHexMarkers document)).map Warning.message =
        (Extraction.warnings document).map Warning.message) ∧
    (List.Forall₂ (Field.KeptUnless ean13) (Extraction.fields document)
        (Extraction.fields (forceInterpretationLine document)) ∧
      (Extraction.warnings (forceInterpretationLine document)).map Warning.message =
        (Extraction.warnings document).map Warning.message) :=
  ⟨fields_warnings_of_kept fun kind => forall₂_kept_ensureHexMarkers kind document,
    fields_warnings_of_kept fun kind => forall₂_kept_forceInterpretationLine kind document⟩

/-- A data command within a value gets a marker like any other. -/
example : (Extraction.fields (ensureHexMarkers "^FT1,2^FDa^FDb^FS".toList)).map
    Field.templateValue = ["a^FH^FDb".toList] := by decide

end Cleaning

end LabelTemplate
