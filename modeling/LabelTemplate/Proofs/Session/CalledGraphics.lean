import LabelTemplate.Proofs.Preview.StoredNames
import LabelTemplate.Proofs.Regeneration.Splice
import LabelTemplate.Proofs.Session.Edits
import LabelTemplate.Proofs.Session.Invariant

/-!
# Graphics that a preview calls

The render service finds a graphic if the document stores it under the name by which an image calls
it. As long as a template is loaded the graphics of its images are the ones that were found in it,
and the captured definitions are those of its text. So it is the renaming that decides, and it
stores each captured definition once: under the value of the last image that calls its graphic.

That is one name too few where several images share a graphic and have different values
(`called_graphic_is_not_stored`). It is enough where they have the same one.
-/

namespace LabelTemplate

open Text Command

namespace Regeneration

/-- A text of which some parts are written again is not empty, unless nothing is written. -/
theorem Splices.ne_nil {write : Record → Text} {offset : Nat} {t out : Text} {rs : List Record}
    (h : Splices write offset t rs out) (hwrite : ∀ r ∈ rs, write r ≠ []) (ht : t ≠ []) :
    out ≠ [] := by
  cases h with
  | done => exact ht
  | next _ _ =>
      have := hwrite _ List.mem_cons_self
      simp [this]

theorem rewritten_ne_nil (remap : Bool) (fields : List Field) (r : Record) :
    rewritten remap fields r ≠ [] := by
  have hopener : r.statement.kind.opener ≠ [] := (Statement.isCommand_opener _).ne_nil
  rw [rewritten]
  split
  · simp [Statement.render, hopener]
  · simp [Statement.text, hopener]

theorem regenerate_ne_nil (remap : Bool) {document : Text} {fields : List Field}
    (hdocument : document ≠ []) (hfields : fields ≠ []) : regenerate remap document fields ≠ [] :=
  (splices_regenerate remap hdocument hfields).ne_nil (fun r _ => rewritten_ne_nil remap fields r)
    hdocument

end Regeneration

namespace Session

variable {s s' : Session} {raw fileName : Text} {f : Field}

/-- The kind and the graphic of a field are those of a record of the template. -/
theorem Since.exists_record (h : Since (s.load raw fileName) s') (hf : f ∈ s'.fields) :
    ∃ r ∈ allRecords (Normalization.normalize raw), f.kind = r.kind ∧
      f.imageName = if r.kind = .image then some r.value else none := by
  have hfound : f.asFound ∈ (s.load raw fileName).fields := h.fields ▸ List.mem_map_of_mem hf
  obtain ⟨_, hchristened, place, heq⟩ := Field.exists_of_mem_order hfound
  obtain ⟨g, hg, rfl⟩ := List.mem_map.mp hchristened
  obtain ⟨r, hr, number, p, _, rfl⟩ := exists_record_of_mem_fields hg
  refine ⟨r, (mem_eligibleRecords_iff.mp hr).1, ?_, ?_⟩
  · exact congrArg Field.kind heq
  · exact congrArg Field.imageName heq

/-- The graphic that a field calls has a name without a comma, and the field is an image. -/
theorem Since.called (h : Since (s.load raw fileName) s') (hf : f ∈ s'.fields) {name : Text}
    (hname : f.imageName = some name) : f.kind = .image ∧ name ≠ [] ∧ ',' ∉ name := by
  obtain ⟨r, hr, hkind, himage⟩ := h.exists_record hf
  rw [hname] at himage
  split at himage
  · rename_i hrkind
    obtain rfl := Option.some.inj himage
    have hvalid := (kind_valid_of_mem_records (mem_allRecords_iff.mp hr)).2.value
    rw [show r.statement.kind = .image from hrkind] at hvalid
    exact ⟨hkind.trans hrkind, hvalid.1, fun hc => absurd (hvalid.2 _ hc) (by decide)⟩
  · exact absurd himage (by simp)

/--
**Which graphics of images a preview stores.**

The template was loaded and then edited in any way. The captured definition of a graphic that an
image calls is stored under the value of the last image that calls it, if the names of graphics hold
no store command with one another. So a value stands for a graphic that the preview stores just if
it is the value of the last image that calls some captured graphic, or the name of one that no image
calls, or if the document itself defines it.
-/
theorem called_graphic_is_stored_iff (s : Session) (raw fileName : Text) {steps : List Step}
    (hsteps : ∀ st ∈ steps, st.isLoad = false) {f : Field} {name : Text}
    (hf : f ∈ ((s.load raw fileName).afterAll steps).fields) (hname : f.imageName = some name) :
    let s' := (s.load raw fileName).afterAll steps
    let captured := Definitions.capture raw
    (Definitions.opening name <:+: captured.text →
      (∀ g ∈ s'.fields, ∀ other, g.imageName = some other →
        ¬ storeGraphic ++ other <:+ name ∧ ¬ storeGraphic ++ name <:+ other) →
      Definitions.opening (PreviewDocument.storedName s'.fields name) <:+: s'.previewDocument) ∧
    ((∀ g ∈ s'.fields, ∀ other, g.imageName = some other → ¬ storeGraphic <:+: other) →
      ',' ∉ f.currentValue → '^' ∉ f.currentValue → ¬ storeGraphic <:+: f.currentValue →
      ('\n' ∈ f.currentValue → formatStart <:+: s'.regenerated) →
      (Definitions.opening f.currentValue <:+: s'.previewDocument ↔
        (∃ other, captured.Defines other ∧ Definitions.opening f.currentValue <:+:
          Definitions.opening (PreviewDocument.storedName s'.fields other)) ∨
        Definitions.opening f.currentValue <:+: if captured.present then
          Cleaning.stripDefinitions s'.regenerated else s'.regenerated)) := by
  intro s' captured
  have hsince : Since (s.load raw fileName) s' :=
    (s.fresh_load raw fileName).since.afterAll (s.fresh_load raw fileName) hsteps
  have hdocument : s'.document ≠ [] := by
    rw [hsince.document]
    intro hnil
    obtain ⟨r, hr, _⟩ := hsince.exists_record hf
    rw [show Normalization.normalize raw = [] from hnil] at hr
    exact absurd hr List.not_mem_nil
  have hregenerated : s'.regenerated ≠ [] :=
    Regeneration.regenerate_ne_nil _ hdocument (List.ne_nil_of_mem hf)
  have hpreview : s'.previewDocument = PreviewDocument.build s'.regenerated captured s'.fields := by
    have hdefinitions : s'.definitions = captured := hsince.definitions
    simp [previewDocument, generate, Generation.ok, hregenerated, hdefinitions]
  rw [hpreview]
  constructor
  · exact PreviewDocument.opening_infix_build hregenerated (fun g hg other => hsince.called hg)
      hf hname
  · intro hnames hcomma hcaret hwhole hline
    refine PreviewDocument.opening_infix_build_iff hregenerated (fun g hg other hother => ?_)
      hcomma hcaret hwhole hline
    obtain ⟨_, hne, hcomma⟩ := hsince.called hg hother
    exact ⟨hne, hcomma, hnames g hg other hother⟩

/-! ## Two images that share a graphic -/

/-- Two images call one graphic. -/
def sharedGraphic : Text := "~DGK,1,1,0^XA^FO1,1^XGK,1,1^FS^FO2,2^XGK,1,1^FS^XZ".toList

/-- Each of them gets a value of its own. -/
def differentValues : List Step := [.updateValue (.found 0) ['X'], .updateValue (.found 1) ['Y']]

theorem load_sharedGraphic :
    (({ settings := {} } : Session).load sharedGraphic []).afterAll differentValues =
      { settings := {}
        document := sharedGraphic
        definitions := { text := "~DGK,1,1,0^XA".toList }
        fields :=
          [⟨.found 0, .image, ⟨1, 1⟩, none, ['K'], ['X'], 0, 0, some ['K'], false⟩,
           ⟨.found 1, .image, ⟨2, 2⟩, none, ['K'], ['Y'], 1, 1, some ['K'], false⟩]
        namesGiven := 2 } := by
  obtain ⟨hfound, hnormal, hcaptured⟩ : Extraction.fields sharedGraphic =
      [⟨.found 0, .image, ⟨1, 1⟩, none, ['K'], ['K'], 0, 0, some ['K'], false⟩,
       ⟨.found 1, .image, ⟨2, 2⟩, none, ['K'], ['K'], 0, 1, some ['K'], false⟩] ∧
      Normalization.normalize sharedGraphic = sharedGraphic ∧
      Definitions.capture sharedGraphic = { text := "~DGK,1,1,0^XA".toList } := by
    decide +kernel
  have haddressed : ∀ st ∈ differentValues, st.addressed?.isSome := by
    simp [differentValues, Step.addressed?]
  have hsorted : ∀ fields : List Field,
      fields.Pairwise (fun f g => f.position.readsBefore g.position) →
        Field.sortByPlace fields = fields :=
    fun fields h => List.mergeSort_of_pairwise h
  rw [afterAll_eq (nodup_ids_load _ sharedGraphic []) haddressed, load, hnormal, hfound, hcaptured]
  simp only [Field.order, FieldKind.displayOrder, List.flatMap_cons, List.flatMap_nil]
  rw [hsorted _ (by decide), hsorted _ (by decide), hsorted _ (by decide)]
  rfl

/-- The graphic is stored under the value of the later image. -/
theorem previewDocument_sharedGraphic :
    ((({ settings := {} } : Session).load sharedGraphic []).afterAll
      differentValues).previewDocument =
      "~DGY,1,1,0\n^XA^FO1,1^XGX,1,1^FS^FO2,2^XGY,1,1^FS^XZ".toList := by
  have hs := load_sharedGraphic
  generalize (({ settings := {} } : Session).load sharedGraphic []).afterAll differentValues = s
    at hs ⊢
  have hselected :
      (Regeneration.select (Regeneration.replacements s.settings.remap s.document s.fields)).1 =
        [⟨13, 24, "^FO1,1^XGX,".toList⟩, ⟨30, 41, "^FO2,2^XGY,".toList⟩] := by
    rw [hs]
    decide +kernel
  have hnames : Definitions.effective (PreviewDocument.currentNames s.fields) =
      [(['K'], ['Y'])] := by
    rw [hs, Definitions.effective, List.mergeSort_of_pairwise (by decide)]
    decide +kernel
  rw [previewDocument, generate, regenerated, Regeneration.regenerate, hselected,
    Regeneration.splice, List.mergeSort_of_pairwise (by decide), PreviewDocument.build,
    Definitions.renamed, hnames, hs]
  decide +kernel

/-- The later image finds the graphic under its value. -/
theorem called_graphic_is_stored_iff_of_shared_graphic :
    let s := (({ settings := {} } : Session).load sharedGraphic []).afterAll differentValues
    (∀ st ∈ differentValues, st.isLoad = false) ∧
      s.fields.map (fun f => (f.imageName, f.currentValue)) =
        [(some ['K'], ['X']), (some ['K'], ['Y'])] ∧
      Definitions.opening ['Y'] <:+: s.previewDocument := by
  intro s
  have hsteps : ∀ st ∈ differentValues, st.isLoad = false := by
    simp [differentValues, Step.isLoad]
  have hfields : s.fields =
      [⟨.found 0, .image, ⟨1, 1⟩, none, ['K'], ['X'], 0, 0, some ['K'], false⟩,
       ⟨.found 1, .image, ⟨2, 2⟩, none, ['K'], ['Y'], 1, 1, some ['K'], false⟩] :=
    congrArg Session.fields load_sharedGraphic
  have hcalls : ∀ g ∈ s.fields, g.imageName = some ['K'] := by
    rw [hfields]
    decide
  have hf : (⟨.found 1, .image, ⟨2, 2⟩, none, ['K'], ['Y'], 1, 1, some ['K'], false⟩ : Field) ∈
      s.fields := by
    rw [hfields]
    exact List.mem_cons_of_mem _ List.mem_cons_self
  refine ⟨hsteps, by rw [hfields]; rfl, ?_⟩
  have hstores := called_graphic_is_stored_iff _ sharedGraphic [] hsteps hf rfl
  have hdefined : (Definitions.capture sharedGraphic).Defines ['K'] :=
    ⟨by decide, by decide, by decide⟩
  refine (hstores.2 (fun g hg other hother => ?_) (by decide) (by decide) (by decide)
    (fun h => absurd h (by decide))).mpr (.inl ⟨['K'], hdefined, ?_⟩)
  · obtain rfl := Option.some.inj ((hcalls g hg).symm.trans hother)
    decide
  · show _ <:+: Definitions.opening (PreviewDocument.storedName s.fields ['K'])
    rw [hfields]
    decide

/-- **An image that shares its graphic with a later one calls what nothing stores.** -/
theorem called_graphic_is_not_stored :
    ¬ ∀ (raw : Text) (steps : List Step), (∀ st ∈ steps, st.isLoad = false) →
      let s := (({ settings := {} } : Session).load raw []).afterAll steps
      ∀ f ∈ s.fields, ∀ name, f.kind = .image → f.imageName = some name →
        Definitions.opening name <:+: raw → f.currentValue ≠ [] → ',' ∉ f.currentValue →
        '^' ∉ f.currentValue → Definitions.opening f.currentValue <:+: s.previewDocument := by
  intro h
  have hstored := h sharedGraphic differentValues (by simp [differentValues, Step.isLoad])
    ⟨.found 0, .image, ⟨1, 1⟩, none, ['K'], ['X'], 0, 0, some ['K'], false⟩
    (by rw [load_sharedGraphic]; exact List.mem_cons_self) ['K'] rfl rfl (by decide)
    (by decide) (by decide) (by decide)
  rw [previewDocument_sharedGraphic] at hstored
  exact absurd hstored (by decide)

end Session

end LabelTemplate
