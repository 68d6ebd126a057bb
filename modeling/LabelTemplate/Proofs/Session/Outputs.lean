import LabelTemplate.Proofs.Regeneration.Presentation
import LabelTemplate.Session.Basic

/-!
# What the documents of a session look at

A field that was moved away and back holds a position where one that was never moved
holds none. Nothing that is written from the fields sees the difference: what counts is
where a field was moved to, if it stands elsewhere than in the template. Nor does
anything see the names of fields, as long as they are different, or their places.

`Field.seen` is what is left of a field without all that; each document is the same
for fields of which the same is seen.
-/

namespace LabelTemplate

namespace Field

/-- What the documents look at. -/
def seen (f : Field) : Field :=
  { f with id := .named [], currentPosition := f.movedTo?, orderIndex := 0 }

theorem movedTo?_seen (f : Field) : f.seen.movedTo? = f.movedTo? := by
  show (f.currentPosition.filter _).filter _ = f.currentPosition.filter _
  cases f.currentPosition with
  | none => rfl
  | some p => by_cases h : p = f.position <;> simp [Option.filter, seen, h]

theorem isModified_seen (f : Field) : f.seen.isModified = f.isModified := by
  rw [isModified, isModified, isMoved, isMoved, movedTo?_seen]
  rfl

end Field

namespace Regeneration

theorem harmless_seen : Harmless Field.seen where
  kind _ := rfl
  templateValue _ := rfl
  sourceOrdinal _ := rfl
  isModified f := f.isModified_seen
  changeOf _ _ f := by
    rw [changeOf, changeOf, Field.movedTo?_seen]
    rfl

/-- **What is written back depends on what is seen of the fields.** -/
theorem regenerate_seen (remap : Bool) (document : Text) (fields : List Field) :
    regenerate remap document (fields.map Field.seen) = regenerate remap document fields :=
  (regenerate_map harmless_seen remap document fields).1

end Regeneration

theorem PreviewDocument.currentNames_seen (fields : List Field) :
    currentNames (fields.map Field.seen) = currentNames fields := by
  rw [currentNames, currentNames, List.foldl_map]
  rfl

/-- **The document for the render service depends on what is seen of the fields.** -/
theorem PreviewDocument.build_seen (document : Text) (definitions : Definitions)
    (fields : List Field) :
    build document definitions (fields.map Field.seen) = build document definitions fields := by
  rw [build, build, currentNames_seen]

namespace Embedding

/-- With different keys all elements are the first of their groups. -/
theorem distinctBy_eq_self {α β : Type} [BEq β] [LawfulBEq β] {key : α → β} {l : List α}
    (h : (l.map key).Nodup) : distinctBy key l = l := by
  induction l with
  | nil => rfl
  | cons a l ih =>
      rw [List.map_cons, List.nodup_cons] at h
      rw [distinctBy, ih h.2]
      refine congrArg (a :: ·) (List.filter_eq_self.mpr fun b hb => ?_)
      have hother : key b ≠ key a := fun heq => h.1 (List.mem_map.mpr ⟨b, hb, heq⟩)
      simpa using hother

/-- Fields with different names each get an answer of their own. -/
theorem answers_eq_filterMap {fields : List Field} (hids : (fields.map Field.id).Nodup)
    (document : Text) (definitions : Definitions) :
    answers document definitions fields = fields.filterMap fun f =>
      (wanted? f).map fun name => answer document definitions f name := by
  have hsublist : ((fields.filterMap fun f => (wanted? f).map fun name => (f, name)).map
      (·.1.id)).Sublist (fields.map Field.id) := by
    clear hids
    induction fields with
    | nil => exact List.Sublist.refl _
    | cons f fields ih =>
        cases hwanted : wanted? f with
        | none => simpa [hwanted] using ih.cons f.id
        | some name => simpa [hwanted] using ih
  rw [answers, requests, distinctBy_eq_self (hids.sublist hsublist), List.map_filterMap]
  simp only [Option.map_map]
  rfl

/-- **The exported file depends on what is seen of the fields, if their names are different.** -/
theorem cleanAndEmbed_congr {fields fields' : List Field} (hids : (fields.map Field.id).Nodup)
    (hids' : (fields'.map Field.id).Nodup) (h : fields.map Field.seen = fields'.map Field.seen)
    (document : Text) (definitions : Definitions) :
    cleanAndEmbed document definitions fields = cleanAndEmbed document definitions fields' := by
  have hanswers : ∀ document, answers document definitions fields =
      answers document definitions fields' := by
    intro document
    -- an answer does not look at more than what is seen of its field
    have hseen : ∀ fields : List Field, (fields.filterMap fun f =>
        (wanted? f).map fun name => answer document definitions f name) =
        (fields.map Field.seen).filterMap fun f =>
          (wanted? f).map fun name => answer document definitions f name := by
      intro fields
      rw [List.filterMap_map]
      rfl
    rw [answers_eq_filterMap hids, answers_eq_filterMap hids', hseen, h, ← hseen]
  rw [cleanAndEmbed, cleanAndEmbed, embed, embed, blocks, blocks, hanswers]

end Embedding

namespace Session

/-- What a session gives out: the document, the one for the render service, the exported file. -/
def outputs (s : Session) : Generation × Text × Export :=
  (s.generate, s.previewDocument, s.exportFile)

/-- **What a session gives out depends on the template and on what is seen of the fields.** -/
theorem outputs_congr {s t : Session} (hsettings : s.settings = t.settings)
    (hfileName : s.fileName = t.fileName) (hdocument : s.document = t.document)
    (hdefinitions : s.definitions = t.definitions) (hids : (s.fields.map Field.id).Nodup)
    (hids' : (t.fields.map Field.id).Nodup)
    (hseen : s.fields.map Field.seen = t.fields.map Field.seen) : s.outputs = t.outputs := by
  have hgenerate : s.generate = t.generate := by
    have hregenerated : s.regenerated = t.regenerated := by
      rw [regenerated, regenerated, hsettings, hdocument,
        ← Regeneration.regenerate_seen _ _ s.fields, hseen, Regeneration.regenerate_seen]
    rw [generate, generate, hregenerated]
  have hpreview : s.previewDocument = t.previewDocument := by
    rw [previewDocument, previewDocument, hgenerate, hdefinitions,
      ← PreviewDocument.build_seen _ _ s.fields, hseen, PreviewDocument.build_seen]
  have hexport : s.exportFile = t.exportFile := by
    rw [exportFile, exportFile, exportFileName, exportFileName, hgenerate, hfileName, hsettings,
      hdefinitions, Embedding.cleanAndEmbed_congr hids hids' hseen]
  rw [outputs, outputs, hgenerate, hpreview, hexport]

end Session

end LabelTemplate
