import LabelTemplate.Proofs.Definitions.Substitution
import LabelTemplate.Proofs.Preview.Storing

/-!
# The names under which a preview stores graphics

Each captured definition is stored once, under the value of the last image that calls its graphic
(`storedName`). So an image finds its graphic just if its value is the name of some definition after
that, or stands in the document anyway (`opening_infix_build_iff`). Where several images share a
definition and have different values, all but the last one call a graphic that nothing stores.

The beginning of a definition is looked for in a text that is put together from pieces. It ends with
the only comma in it and has one store command in it, at its start, so it does not reach from one
piece into the next (`opening_infix_append_atStore_iff`) and not beyond the name of a piece.
-/

namespace LabelTemplate

open Text Command Scan

namespace Definitions

/-- A definition of a name: it begins in the text, and what stands up to its comma is the name. -/
structure Defines (d : Definitions) (name : Text) : Prop where
  /-- The definition begins in the text. -/
  begins : opening name <:+: d.text
  /-- The name ends at the first comma. -/
  comma : ',' ∉ name
  /-- No other definition begins inside the name. -/
  whole : ¬ storeGraphic <:+: name

variable {d : Definitions} {names : Renaming} {v name piece : Text}

/-! ## Where definitions begin -/

theorem storeGraphic_infix_of_opening {t : Text} (h : opening v <:+: t) :
    storeGraphic <:+: t := by
  rw [opening, List.append_assoc] at h
  exact (List.prefix_append _ _).isInfix.trans h

/-- A beginning does not reach into the next store command. -/
theorem opening_infix_append_atStore_iff (hv : ¬ storeGraphic <:+: v) {u r : Text}
    (hr : AtStore r) : opening v <:+: u ++ r ↔ opening v <:+: u ∨ opening v <:+: r := by
  refine ⟨fun h => ?_, ?_⟩
  · rcases infix_append_cases h with h | h | ⟨a, b, ha, hb, heq, _, hpre⟩
    · exact .inl h
    · exact .inr h
    · rcases hr with rfl | hr
      · exact absurd (List.prefix_nil.mp hpre) hb
      · exfalso
        rcases List.prefix_or_prefix_of_prefix hr hpre with hstore | hstore
        · -- then a store command stands in the beginning behind its first character
          obtain ⟨c, a, rfl⟩ := List.exists_cons_of_ne_nil ha
          have hinside : storeGraphic <:+: ['D', 'G'] ++ (v ++ [',']) :=
            hstore.isInfix.trans ⟨a, [], by simpa using (List.cons.inj heq).2.symm⟩
          rw [infix_append_iff_of_not_mem (by decide) (by simp [storeGraphic]),
            infix_append_iff_of_head (by decide) (by simp [storeGraphic])] at hinside
          exact hinside.elim hv (by decide)
        · -- and otherwise the comma at its end stands in a store command
          obtain ⟨w, rfl, _⟩ := (List.suffix_concat_iff.mp ⟨a, heq.symm⟩).resolve_left hb
          have hcomma : ',' ∈ storeGraphic := hstore.subset (by simp)
          exact absurd hcomma (by decide)
  · rintro (h | h)
    · exact h.trans (List.prefix_append u r).isInfix
    · exact h.trans (List.suffix_append u r).isInfix

/-- In the beginning of one definition no other one begins. -/
theorem eq_of_opening_infix_opening (hv : ',' ∉ v) (hname : ',' ∉ name)
    (hwhole : ¬ storeGraphic <:+: name) (h : opening v <:+: opening name) : v = name := by
  rcases suffix_or_infix_of_separator (not_mem_storeGraphic_append hv)
    (not_mem_storeGraphic_append hname) h with h | h
  · rcases storeGraphic_append_suffix h with heq | h
    · exact heq
    · exact absurd ((List.prefix_append _ _).isInfix.trans h.isInfix) hwhole
  · exact absurd (List.infix_nil.mp h) (opening_ne_nil v)

/-- A definition of a name begins in a piece just if one does in the new beginning of the piece. -/
theorem opening_infix_withName_iff (hv : ',' ∉ v) (hpiece : ¬ storeGraphic <:+: piece)
    (image : Text → Text) :
    opening v <:+: storeGraphic ++ withName image piece ↔
      ∃ name data, piece = name ++ ',' :: data ∧ ',' ∉ name ∧
        opening v <:+: opening (image name) := by
  by_cases hcomma : ',' ∈ piece
  · obtain ⟨name, data, rfl, hname⟩ := List.eq_append_cons_of_mem hcomma
    have hdata : ¬ opening v <:+: data := fun h => hpiece
      ((storeGraphic_infix_of_opening h).trans ⟨name ++ [','], [], by simp⟩)
    have hnew : storeGraphic ++ withName image (name ++ ',' :: data) =
        opening (image name) ++ data := by
      rw [withName_append hname, opening_eq]
    rw [hnew]
    show storeGraphic ++ v ++ [','] <:+: storeGraphic ++ image name ++ [','] ++ data ↔ _
    rw [infix_append_separator_iff (not_mem_storeGraphic_append hv)]
    constructor
    · intro h
      exact ⟨name, data, rfl, hname, h.resolve_right hdata⟩
    · rintro ⟨name', data', heq, hname', h⟩
      obtain ⟨rfl, _⟩ := append_cons_inj_of_not_mem hname hname' heq
      exact .inl h
  · rw [withName_of_not_mem hcomma]
    constructor
    · intro h
      have hmem : ',' ∈ storeGraphic ++ piece := h.subset (by simp [opening])
      exact absurd hmem (not_mem_storeGraphic_append hcomma)
    · rintro ⟨name, data, rfl, _⟩
      exact absurd (by simp) hcomma

theorem opening_infix_pieces_iff (hv : ',' ∉ v) (hwhole : ¬ storeGraphic <:+: v)
    (image : Text → Text) {first : Text} {rest : List Text}
    (hpieces : ∀ piece ∈ first :: rest, ¬ storeGraphic <:+: piece) :
    (opening v <:+: first ++ rest.flatMap fun piece => storeGraphic ++ withName image piece) ↔
      ∃ piece ∈ rest, ∃ name data, piece = name ++ ',' :: data ∧ ',' ∉ name ∧
        opening v <:+: opening (image name) := by
  rw [List.forall_mem_cons] at hpieces
  have hfirst : ¬ opening v <:+: first := fun h =>
    hpieces.1 (storeGraphic_infix_of_opening h)
  rw [opening_infix_append_atStore_iff hwhole (atStore_flatMap rest), or_iff_right hfirst]
  clear hfirst
  replace hpieces := hpieces.2
  induction rest with
  | nil => simp [opening_ne_nil]
  | cons piece rest ih =>
      rw [List.forall_mem_cons] at hpieces
      rw [List.flatMap_cons, opening_infix_append_atStore_iff hwhole (atStore_flatMap rest),
        opening_infix_withName_iff hv hpieces.1, List.exists_mem_cons_iff]
      exact or_congr_right (ih hpieces.2)

/-! ## Where definitions begin under new names -/

/-- A name is defined just if it is that of a piece. -/
theorem defines_iff {left first : Text} {rest : List Text} (hremains : Remains d.text left)
    (hcut : Cut left first rest) :
    d.Defines name ↔ ∃ piece ∈ rest, ∃ data, piece = name ++ ',' :: data ∧ ',' ∉ name := by
  obtain ⟨hjoined, hpieces⟩ := hcut
  have hbody : d.body = first ++ rest.flatMap fun piece => storeGraphic ++ withName id piece := by
    have hid : ∀ piece, withName id piece = piece := fun piece => by simp [withName]
    simp only [remains_iff.mp hremains, ← hjoined, joinWith_cons, hid]
  have hwhole : ∀ piece ∈ rest, ∀ name data, piece = name ++ ',' :: data →
      ¬ storeGraphic <:+: name := by
    rintro _ hpiece name data rfl h
    exact hpieces _ (List.mem_cons_of_mem first hpiece)
      (h.trans (List.prefix_append name _).isInfix)
  constructor
  · rintro ⟨hbegins, hcomma, hname⟩
    rw [← opening_infix_body_iff, hbody,
      opening_infix_pieces_iff hcomma hname id hpieces] at hbegins
    obtain ⟨piece, hpiece, name', data, rfl, hcomma', h⟩ := hbegins
    obtain rfl := eq_of_opening_infix_opening hcomma hcomma' (hwhole _ hpiece _ _ rfl) h
    exact ⟨_, hpiece, data, rfl, hcomma⟩
  · rintro ⟨_, hpiece, data, rfl, hcomma⟩
    have hname := hwhole _ hpiece _ _ rfl
    refine ⟨?_, hcomma, hname⟩
    rw [← opening_infix_body_iff, hbody, opening_infix_pieces_iff hcomma hname id hpieces]
    exact ⟨_, hpiece, name, data, rfl, hcomma, List.infix_refl _⟩

/-- **The names under which renamed definitions begin.** -/
theorem opening_infix_renamed_iff (hnodup : (names.map Prod.fst).Nodup)
    (hkeys : ∀ old new, (old, new) ∈ names → ',' ∉ old ∧ ¬ storeGraphic <:+: old)
    (hv : ',' ∉ v) (hwhole : ¬ storeGraphic <:+: v) :
    opening v <:+: d.renamed names ↔
      ∃ name, d.Defines name ∧ opening v <:+: opening (newName names name) := by
  obtain ⟨first, rest, hcut⟩ := exists_cut d.body
  have hremains : Remains d.text d.body := remains_iff.mpr rfl
  rw [renamed_eq hnodup hkeys hremains hcut, opening_infix_pieces_iff hv hwhole _ hcut.whole]
  constructor
  · rintro ⟨piece, hpiece, name, data, heq, hname, h⟩
    exact ⟨name, (defines_iff hremains hcut).mpr ⟨piece, hpiece, data, heq, hname⟩, h⟩
  · rintro ⟨name, hdefines, h⟩
    obtain ⟨piece, hpiece, data, heq, hname⟩ := (defines_iff hremains hcut).mp hdefines
    exact ⟨piece, hpiece, name, data, heq, hname, h⟩

end Definitions

namespace PreviewDocument

open Cleaning Definitions

variable {fields : List Field} {definitions : Definitions} {v : Text}

theorem nodup_currentNames (fields : List Field) : ((currentNames fields).map Prod.fst).Nodup := by
  induction fields using List.reverseRecOn with
  | nil => exact List.nodup_nil
  | append_singleton fields f ih =>
      rw [currentNames_concat]
      split
      · split
        · exact ih
        · rename_i old _ _ _
          have hkept : (((currentNames fields).filter (·.1 != old)).map Prod.fst).Nodup :=
            ih.sublist (List.filter_sublist.map Prod.fst)
          have hother : old ∉ ((currentNames fields).filter (·.1 != old)).map Prod.fst := by
            simp
          rw [List.map_append, List.map_singleton, ← List.concat_eq_append]
          exact hkept.concat hother
      · exact ih

/-- A name becomes the one under which its graphic is stored. -/
theorem newName_currentNames {name : Text}
    (hcalled : ∀ f ∈ fields, f.imageName ≠ some []) :
    newName (currentNames fields) name = storedName fields name := by
  cases hlast : lastCaller? fields name with
  | none =>
      rw [storedName, hlast]
      refine newName_of_not_mem fun new hmem => ?_
      obtain ⟨_, g, hg, _⟩ := mem_currentNames_iff.mp hmem
      exact absurd (hlast.symm.trans hg) (by simp)
  | some f =>
      obtain ⟨hf, _, hname⟩ := of_lastCaller?_eq_some hlast
      have hne : name ≠ [] := by
        rintro rfl
        exact hcalled f hf hname
      rw [storedName, hlast]
      exact newName_of_mem (nodup_currentNames fields)
        (mem_currentNames_iff.mpr ⟨hne, f, hlast, rfl⟩) hne

/--
**The names under which a preview stores graphics.**

They are the new names of the definitions that were captured, and what the document has of
definitions anyway.
-/
theorem opening_infix_build_iff {document raw : Text} (hdocument : document ≠ [])
    (hcalled : ∀ f ∈ fields, ∀ name, f.imageName = some name →
      name ≠ [] ∧ ',' ∉ name ∧ ¬ storeGraphic <:+: name)
    (hv : ',' ∉ v) (hcaret : '^' ∉ v) (hwhole : ¬ storeGraphic <:+: v)
    (hline : '\n' ∈ v → formatStart <:+: document) :
    opening v <:+: build document (capture raw) fields ↔
      (∃ name, (capture raw).Defines name ∧ opening v <:+: opening (storedName fields name)) ∨
      opening v <:+: if (capture raw).present then stripDefinitions document else document := by
  rcases capture_eq raw with hnone | ⟨body, _, hsome⟩
  · -- nothing was captured, and nothing is done
    have hpresent : (capture raw).present = false := by rw [hnone]; rfl
    have hnone : ∀ name, ¬ (capture raw).Defines name := fun name h =>
      absurd (present_of_opening h.begins) (by simp [hpresent])
    rw [build, if_pos (by simp [hpresent])]
    simp [hnone, hpresent]
  · have hpresent : (capture raw).present = true := by rw [hsome]; rfl
    obtain ⟨data, hdata⟩ := exists_replace_eq (effective (currentNames fields)) (trimEnd body)
    have hstored : (capture raw).renamed (currentNames fields) = storeGraphic ++ data := by
      rw [Definitions.renamed, body_eq (by rw [hsome]), hdata]
    have hrenamed : opening v <:+: storeGraphic ++ data ↔
        ∃ name, (capture raw).Defines name ∧ opening v <:+: opening (storedName fields name) := by
      rw [← hstored,
        opening_infix_renamed_iff (nodup_currentNames fields) (fun old new hmem => ?_) hv hwhole]
      · simp only [newName_currentNames fun f hf h => (hcalled f hf [] h).1 rfl]
      · obtain ⟨_, g, hg, _⟩ := mem_currentNames_iff.mp hmem
        obtain ⟨hf, _, hname⟩ := of_lastCaller?_eq_some hg
        exact (hcalled g hf old hname).2
    rw [if_pos hpresent, ← hrenamed, build, if_neg (by simp [hdocument, hpresent]), hstored]
    -- the line feed behind the definitions is no part of a beginning
    have hfed : opening v <:+: storeGraphic ++ data ++ ['\n'] ↔
        opening v <:+: storeGraphic ++ data :=
      infix_append_iff_of_separator (by decide)
    cases hcut : cut? formatStart (stripDefinitions document) with
    | none =>
        have hfeed : '\n' ∉ v := fun h => (cut?_eq_none_iff (by decide)).mp hcut
          (formatStart_infix_stripDefinitions (hline h))
        have hhead : ∀ c ∈ (['\n'] ++ stripDefinitions document).head?, c ∉ (opening v).tail := by
          rintro c hc
          rw [← Option.some.inj hc]
          simpa [opening, storeGraphic] using hfeed
        have hbehind : opening v <:+: ['\n'] ++ stripDefinitions document ↔
            opening v <:+: stripDefinitions document :=
          opening_infix_append_of_not_mem (by decide) v _
        simp only [hcut]
        rw [List.append_assoc _ ['\n'], infix_append_iff_of_head (opening_ne_nil v) hhead, hbehind]
    | some cut =>
        obtain ⟨before, behind⟩ := cut
        have hbare := ((cut?_eq_some_iff isCommand_formatStart).mp hcut).1
        have hstart : AtCaret (formatStart ++ behind) := isCommand_formatStart.atCaret behind
        have hstore : AtStore (storeGraphic ++ data ++ ['\n']) := .inr (by simp)
        simp only [hcut]
        rw [hbare, List.append_assoc before formatStart, List.append_assoc _ formatStart,
          opening_infix_append_iff hcaret hstart, opening_infix_append_iff hcaret hstart,
          opening_infix_append_atStore_iff hwhole hstore, hfed]
        tauto

end PreviewDocument

end LabelTemplate
