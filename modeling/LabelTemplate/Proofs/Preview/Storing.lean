import LabelTemplate.Extraction
import LabelTemplate.Preview.Document
import LabelTemplate.Proofs.Cleaning.Bare
import LabelTemplate.Proofs.Definitions.Renaming

/-!
# The document for the render service

It is the generated document without its own definitions, and with the captured ones in front of the
first format. What is put in begins with a store command and has no format command, so cleaning
takes it out again as one block, and what is left is the generated document without definitions.
Both statements of `build_keeps_label` come from that.
-/

namespace LabelTemplate.PreviewDocument

open Text Command Cleaning Definitions

variable {fields : List Field} {names : Renaming}

/-! ## The names under which graphics are stored -/

/-- The last image that calls a graphic: its value is the name under which the graphic is stored. -/
def lastCaller? (fields : List Field) (name : Text) : Option Field :=
  fields.reverse.find? fun f => f.kind = .image ∧ f.imageName = some name

theorem lastCaller?_concat (fields : List Field) (f : Field) (name : Text) :
    lastCaller? (fields ++ [f]) name =
      if f.kind = .image ∧ f.imageName = some name then some f else lastCaller? fields name := by
  rw [lastCaller?, List.reverse_append, List.reverse_singleton, List.singleton_append,
    List.find?_cons]
  by_cases h : f.kind = .image ∧ f.imageName = some name
  · simp [h]
  · simp [h, lastCaller?]

theorem of_lastCaller?_eq_some {f : Field} {name : Text} (h : lastCaller? fields name = some f) :
    f ∈ fields ∧ f.kind = .image ∧ f.imageName = some name :=
  ⟨List.mem_reverse.mp (List.mem_of_find?_eq_some h), by simpa using List.find?_some h⟩

theorem exists_lastCaller?_eq_some {f : Field} {name : Text} (hf : f ∈ fields)
    (hkind : f.kind = .image) (hname : f.imageName = some name) :
    ∃ g, lastCaller? fields name = some g :=
  Option.isSome_iff_exists.mp <| List.find?_isSome.mpr
    ⟨f, List.mem_reverse.mpr hf, by simp [hkind, hname]⟩

/-- The name under which a graphic is stored: the value of the last image that calls it. -/
def storedName (fields : List Field) (name : Text) : Text :=
  ((lastCaller? fields name).map Field.currentValue).getD name

theorem currentNames_concat (fields : List Field) (f : Field) :
    currentNames (fields ++ [f]) =
      match f.kind, f.imageName with
      | .image, some old =>
        if old.isEmpty then currentNames fields
        else (currentNames fields).filter (·.1 != old) ++ [(old, f.currentValue)]
      | _, _ => currentNames fields := by
  rw [currentNames, List.foldl_append]
  rfl

/-- A graphic is stored under the value of the last image that calls it. -/
theorem mem_currentNames_iff {old new : Text} : (old, new) ∈ currentNames fields ↔
    old ≠ [] ∧ ∃ f, lastCaller? fields old = some f ∧ f.currentValue = new := by
  induction fields using List.reverseRecOn with
  | nil => simp [currentNames, lastCaller?]
  | append_singleton fields f ih =>
      rw [currentNames_concat, lastCaller?_concat]
      by_cases hcalls : f.kind = .image ∧ f.imageName = some old
      · rw [if_pos hcalls]
        by_cases hnil : old = []
        · subst hnil
          simp [hcalls, ih]
        · simp [hcalls, hnil, @eq_comm _ new]
      · rw [if_neg hcalls, ← ih]
        split
        · rename_i name hkind hname
          have hother : old ≠ name := by
            rintro rfl
            exact hcalls ⟨hkind, hname⟩
          split
          · rfl
          · simp [hother]
        · rfl

/-! ## What is put in -/

variable {definitions : Definitions}

/-- **Renaming brings up no format command.** -/
theorem formatFree_replace (hnew : ∀ old new, (old, new) ∈ names → '^' ∉ new) {t : Text}
    (h : FormatFree t) :
    FormatFree (Scan.replace (renamedOpening names) (storeGraphic ++ ·) t) :=
  ⟨fun hin => h.1 (infix_of_infix_replace isCommand_formatStart (by decide) hnew hin),
    fun hin => h.2 (infix_of_infix_replace isCommand_formatEnd (by decide) hnew hin)⟩

/-- Captured definitions under new names begin with a store command and hold no format command. -/
theorem exists_renamed_eq {body : Text}
    (htext : definitions.text = storeGraphic ++ body ++ formatStart) (hfree : FormatFree body)
    (hnew : ∀ old new, (old, new) ∈ names → '^' ∉ new) :
    ∃ data, definitions.renamed names = storeGraphic ++ data ∧ FormatFree data := by
  obtain ⟨data, hdata⟩ := exists_replace_eq (effective names) body.trimEnd
  have hbody : FormatFree (storeGraphic ++ body.trimEnd) :=
    (formatFree_append_iff (by decide) _).mpr (hfree.of_infix (trimEnd_isPrefix body).isInfix)
  have hrenamed := formatFree_replace
    (fun old new h => hnew old new (mem_effective_iff.mp h).1) hbody
  rw [hdata, formatFree_append_iff (by decide)] at hrenamed
  exact ⟨data, by rw [Definitions.renamed, body_eq htext, hdata], hrenamed⟩

theorem renamed_infix_build {document : Text} (hne : document ≠ [])
    (hpresent : definitions.present = true) (fields : List Field) :
    definitions.renamed (currentNames fields) <:+: build document definitions fields := by
  have hstored : ∀ r, definitions.renamed (currentNames fields) <:+:
      definitions.renamed (currentNames fields) ++ ['\n'] ++ r := by
    intro r
    rw [List.append_assoc]
    exact (List.prefix_append _ _).isInfix
  rw [build, if_neg (by simp [hne, hpresent])]
  cases hcut : cut? formatStart (stripDefinitions document) with
  | none =>
      simp only [hcut]
      exact hstored _
  | some cut =>
      obtain ⟨before, behind⟩ := cut
      simp only [hcut]
      rw [List.append_assoc, List.append_assoc]
      exact (hstored _).trans (List.suffix_append before _).isInfix

theorem present_of_opening {name : Text} (h : opening name <:+: definitions.text) :
    definitions.present = true := by
  rw [Definitions.present, Bool.not_eq_true', List.isEmpty_eq_false_iff]
  intro hnil
  rw [hnil] at h
  exact opening_ne_nil name (List.infix_nil.mp h)

/-- The preview stores a captured graphic under the value of the last image that calls it. -/
theorem opening_infix_build {document : Text} (hdocument : document ≠ [])
    (hcalled : ∀ g ∈ fields, ∀ other, g.imageName = some other →
      g.kind = .image ∧ other ≠ [] ∧ ',' ∉ other)
    {f : Field} {name : Text} (hf : f ∈ fields) (hname : f.imageName = some name)
    (hcaptured : opening name <:+: definitions.text)
    (hapart : ∀ g ∈ fields, ∀ other, g.imageName = some other →
      ¬ storeGraphic ++ other <:+ name ∧ ¬ storeGraphic ++ name <:+ other) :
    opening (storedName fields name) <:+: build document definitions fields := by
  obtain ⟨hkind, hne, hcomma⟩ := hcalled f hf name hname
  obtain ⟨g, hlast⟩ := exists_lastCaller?_eq_some hf hkind hname
  have hstored : storedName fields name = g.currentValue := by
    rw [storedName, hlast]
    rfl
  have hcaller : ∀ old new, (old, new) ∈ currentNames fields →
      ∃ g ∈ fields, g.imageName = some old := by
    intro old new hmem
    obtain ⟨_, g, hg, _⟩ := mem_currentNames_iff.mp hmem
    exact ⟨g, (of_lastCaller?_eq_some hg).1, (of_lastCaller?_eq_some hg).2.2⟩
  rw [hstored]
  refine List.IsInfix.trans ?_
    (renamed_infix_build hdocument (present_of_opening hcaptured) fields)
  refine opening_infix_renamed hne hcomma (fun old new hmem => ?_) (fun new hmem => ?_)
    ⟨g.currentValue, mem_currentNames_iff.mpr ⟨hne, g, hlast, rfl⟩⟩ (fun old new hmem => ?_)
    hcaptured
  · obtain ⟨g, hg, hold⟩ := hcaller old new hmem
    exact (hcalled g hg old hold).2.2
  · obtain ⟨_, g', hg', rfl⟩ := mem_currentNames_iff.mp hmem
    rw [Option.some.inj (hlast.symm.trans hg')]
  · obtain ⟨g, hg, hold⟩ := hcaller old new hmem
    exact hapart g hg old hold

/-- The captured definitions stand in front of the first format of the document without its own. -/
theorem build_eq {document before behind : Text} (hne : document ≠ [])
    (hpresent : definitions.present = true)
    (hbare : stripDefinitions document = before ++ (formatStart ++ behind))
    (hfirst : ¬ formatStart <:+: before) (fields : List Field) :
    build document definitions fields =
      before ++ (definitions.renamed (currentNames fields) ++ '\n' :: (formatStart ++ behind)) := by
  have hcut : cut? formatStart (stripDefinitions document) = some (before, behind) :=
    (cut?_eq_some_iff isCommand_formatStart).mpr ⟨by rw [hbare, List.append_assoc], hfirst⟩
  rw [build, if_neg (by simp [hne, hpresent])]
  simp only [hcut, List.append_assoc, List.cons_append, List.nil_append]

/--
**The document for the render service shows the same label, and building it twice changes nothing.**

The document has a format, the captured definitions have no format end, and the images' values have
no caret.
-/
theorem build_keeps_label {document raw : Text} {fields : List Field}
    (hformat : formatStart <:+: document)
    (hcaptured : ¬ formatEnd <:+: (capture raw).text)
    (hcaret : ∀ f ∈ fields, f.kind = .image → '^' ∉ f.currentValue) :
    let shown := build document (capture raw) fields
    stripDefinitions shown = stripDefinitions document ∧
      build shown (capture raw) fields = shown := by
  intro shown
  rcases capture_eq raw with hnone | ⟨body, hstart, hsome⟩
  · -- nothing was captured, and nothing is done
    have hshown : shown = document := by
      show build document (capture raw) fields = document
      rw [hnone, build, if_pos (by simp [Definitions.present])]
    rw [hshown]
    exact ⟨rfl, hshown⟩
  · have htext : (capture raw).text = storeGraphic ++ body ++ formatStart := by rw [hsome]
    have hpresent : (capture raw).present = true := by
      rw [Definitions.present, htext]
      rfl
    have hfree : FormatFree body := by
      refine ⟨hstart, fun h => hcaptured ?_⟩
      rw [htext, List.append_assoc]
      exact (h.trans (List.prefix_append body _).isInfix).trans (List.suffix_append _ _).isInfix
    have hnew : ∀ old new, (old, new) ∈ currentNames fields → '^' ∉ new := by
      intro old new hmem
      obtain ⟨_, f, hlast, rfl⟩ := mem_currentNames_iff.mp hmem
      obtain ⟨hf, hkind, _⟩ := of_lastCaller?_eq_some hlast
      exact hcaret f hf hkind
    obtain ⟨data, hrenamed, hdata⟩ := exists_renamed_eq htext hfree hnew
    obtain ⟨before, behind, hbare, hfirst⟩ :=
      exists_first_of_infix isCommand_formatStart.ne_nil
        (formatStart_infix_stripDefinitions hformat)
    have hne : document ≠ [] := by
      rintro rfl
      exact absurd (List.infix_nil.mp hformat) isCommand_formatStart.ne_nil
    have hbuild : shown = _ := build_eq hne hpresent hbare hfirst fields
    have hshown : shown =
        before ++ (storeGraphic ++ ((data ++ ['\n']) ++ (formatStart ++ behind))) := by
      rw [hbuild, hrenamed]
      simp
    have hstrip : stripDefinitions shown = stripDefinitions document := by
      rw [hshown, hbare]
      exact stripDefinitions_insert (hbare ▸ bare_stripDefinitions document) hfirst
        hdata.append_lineFeed
    have hshownNe : shown ≠ [] := by
      rw [hshown]
      simp [storeGraphic]
    have hagain := build_eq hshownNe hpresent (hstrip.trans hbare) hfirst fields
    exact ⟨hstrip, hagain.trans hbuild.symm⟩

/-- A store command that stays, as a format ends behind it, before a graphic with a new name. -/
theorem build_keeps_label_of_new_name :
    let raw := "~DGK,1,1,00^XA^FO1,2^XGK,1,1^FS^XZ".toList
    let fields := (Extraction.fields raw).map (·.withValue ['Z'])
    let document := "~DGR,1,1,00^XZ~DGK,1,1,00^XA^FO1,2^XGZ,1,1^FS^XZ".toList
    let shown := build document (capture raw) fields
    formatStart <:+: document ∧ ¬ formatEnd <:+: (capture raw).text ∧
      (∀ f ∈ fields, f.kind = .image → '^' ∉ f.currentValue) ∧
      shown = "~DGR,1,1,00^XZ~DGZ,1,1,00\n^XA^FO1,2^XGZ,1,1^FS^XZ".toList ∧
      stripDefinitions shown = stripDefinitions document ∧
      build shown (capture raw) fields = shown := by
  intro raw fields document shown
  have hformat : formatStart <:+: document := by decide +kernel
  have hcaptured : ¬ formatEnd <:+: (capture raw).text := by decide +kernel
  have hcaret : ∀ f ∈ fields, f.kind = .image → '^' ∉ f.currentValue := by decide +kernel
  have hnames : currentNames fields = [(['K'], ['Z'])] := by decide +kernel
  have hshown : shown = "~DGR,1,1,00^XZ~DGZ,1,1,00\n^XA^FO1,2^XGZ,1,1^FS^XZ".toList := by
    have heffective : effective [(['K'], ['Z'])] = [(['K'], ['Z'])] := by simp [effective]
    show build document (capture raw) fields = _
    rw [build, Definitions.renamed, hnames, heffective]
    decide +kernel
  exact ⟨hformat, hcaptured, hcaret, hshown, build_keeps_label hformat hcaptured hcaret⟩

end LabelTemplate.PreviewDocument
