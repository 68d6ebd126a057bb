import LabelTemplate.Embedding
import LabelTemplate.Proofs.Definitions.Lookup
import LabelTemplate.Proofs.Definitions.Renaming

/-!
# What embedding puts into a document

The wanted definitions go in as one group, at a place that is found by the format commands alone
(`InsertionPoint`). Both at that place and behind the group stands a caret or a format start, and
the beginning of a definition has neither, so every definition that was there is there afterwards
(`InsertionPoint.opening_infix`). Hence no request is answered twice: embedding again finds every
definition in place.
-/

namespace LabelTemplate

open Text Command Cleaning

/-! ## Distinct elements -/

theorem mem_of_mem_distinctBy {α β : Type} [BEq β] {key : α → β} {l : List α} {a : α}
    (h : a ∈ distinctBy key l) : a ∈ l := by
  induction l with
  | nil => exact h
  | cons b l ih =>
      rw [distinctBy, List.mem_cons] at h
      rcases h with rfl | h
      · exact List.mem_cons_self
      · exact List.mem_cons_of_mem b (ih (List.mem_filter.mp h).1)

/-- Each element is stood for by one of its group. -/
theorem exists_mem_distinctBy {α β : Type} [BEq β] [LawfulBEq β] (key : α → β) {l : List α} {a : α}
    (h : a ∈ l) : ∃ b ∈ distinctBy key l, key b = key a := by
  induction l with
  | nil => exact absurd h (by simp)
  | cons c l ih =>
      rw [distinctBy]
      by_cases hkey : key c = key a
      · exact ⟨c, List.mem_cons_self, hkey⟩
      · rcases List.mem_cons.mp h with rfl | h
        · exact absurd rfl hkey
        · obtain ⟨b, hb, hba⟩ := ih h
          refine ⟨b, List.mem_cons_of_mem c (List.mem_filter.mpr ⟨hb, ?_⟩), hba⟩
          rw [hba]
          simpa using Ne.symm hkey

theorem mem_distinctBy_id_iff {α : Type} [BEq α] [LawfulBEq α] {l : List α} {a : α} :
    a ∈ distinctBy id l ↔ a ∈ l := by
  refine ⟨mem_of_mem_distinctBy, fun h => ?_⟩
  obtain ⟨b, hb, rfl⟩ := exists_mem_distinctBy id h
  exact hb

namespace Embedding

variable {document : Text} {definitions : Definitions} {fields : List Field} {f : Field}
  {name : Text}

/-! ## Specification -/

/-- The image is chosen for embedding, and the graphic that it calls was captured. -/
structure Embeddable (definitions : Definitions) (f : Field) (name : Text) : Prop where
  /-- Only images call graphics. -/
  image : f.kind = .image
  /-- The user wants the graphic. -/
  embedded : f.embedded = true
  /-- The graphic has this name in the template. -/
  called : f.imageName = some name
  /-- It has a name. -/
  name_ne_nil : name ≠ []
  /-- Its definition was captured, under this name in some letter case. -/
  captured : definitions.lookup name ≠ []

/-- The captured definition of a graphic under the current value of the image that calls it. -/
def embeddedDefinition (definitions : Definitions) (f : Field) (name : Text) : Text :=
  storeGraphic ++ f.currentValue ++
    Text.trimEnd ((definitions.lookup name).drop (storeGraphic ++ name).length)

/--
The place where definitions go into a document: behind the first format start, or in front of the
first command behind it that keeps the label image, unless a format ends before that command.
-/
inductive InsertionPoint : Text → Text → Prop where
  | behindStart {before behind : Text} : ¬ formatStart <:+: before →
      (∀ setup rest, behind = setup ++ (keepImage ++ rest) → ¬ keepImage <:+: setup →
        formatEnd <:+: setup) →
      InsertionPoint (before ++ formatStart) behind
  | beforeKeepImage {before setup rest : Text} : ¬ formatStart <:+: before →
      ¬ keepImage <:+: setup → ¬ formatEnd <:+: setup →
      InsertionPoint (before ++ (formatStart ++ setup)) (keepImage ++ rest)

/-! ## The place -/

/-- A format ends before a command just if its end is found before that. -/
theorem formatEnd_infix_iff {setup : Text} (rest : Text) :
    formatEnd <:+: setup ↔
      ∃ close ∈ find? formatEnd (setup ++ (keepImage ++ rest)), close ≤ setup.length := by
  constructor
  · intro h
    obtain ⟨a, b, rfl, hfirst⟩ := exists_first_of_infix isCommand_formatEnd.ne_nil h
    refine ⟨a.length, ?_, by simp⟩
    have hcut : cut? formatEnd (a ++ (formatEnd ++ b) ++ (keepImage ++ rest)) =
        some (a, b ++ (keepImage ++ rest)) :=
      (cut?_eq_some_iff isCommand_formatEnd).mpr ⟨by simp, hfirst⟩
    rw [find?, hcut]
    rfl
  · rintro ⟨close, hclose, hle⟩
    obtain ⟨⟨a, b⟩, hcut, rfl⟩ := Option.map_eq_some_iff.mp hclose
    obtain ⟨heq, _⟩ := (cut?_eq_some_iff isCommand_formatEnd).mp hcut
    rw [List.append_assoc] at heq
    obtain ⟨w, rfl⟩ : a <+: setup :=
      List.prefix_of_prefix_length_le ⟨formatEnd ++ b, heq.symm⟩ (List.prefix_append setup _) hle
    rw [List.append_assoc, List.append_right_inj] at heq
    -- an end that begins in the text before the command ends there, as the command has a caret
    by_cases hnil : w = []
    · subst hnil
      exact absurd heq (by simp [formatEnd, keepImage])
    · obtain ⟨w', rfl, _⟩ := isCommand_formatEnd.exists_append_of_append_eq hnil
        (isCommand_keepImage.atCaret rest) heq.symm
      exact (List.prefix_append formatEnd w').isInfix.trans (List.suffix_append a _).isInfix

theorem insertionPoint?_eq_none (h : ¬ formatStart <:+: document) :
    insertionPoint? document = none := by
  rw [insertionPoint?, (cut?_eq_none_iff isCommand_formatStart.ne_nil).mpr h]
  rfl

/-- **In a document with a format there is a place, and it is the one that is meant.** -/
theorem exists_insertionPoint (h : formatStart <:+: document) : ∃ front back,
    insertionPoint? document = some (front, back) ∧ document = front ++ back ∧
      InsertionPoint front back := by
  obtain ⟨before, behind, rfl, hfirst⟩ := exists_first_of_infix isCommand_formatStart.ne_nil h
  have hcut : cut? formatStart (before ++ (formatStart ++ behind)) = some (before, behind) :=
    (cut?_eq_some_iff isCommand_formatStart).mpr ⟨by rw [List.append_assoc], hfirst⟩
  rw [insertionPoint?, hcut, Option.bind_eq_bind, Option.bind_some]
  cases hkeep : cut? keepImage behind with
  | none =>
      refine ⟨before ++ formatStart, behind, by simp only [hkeep]; rfl, by rw [List.append_assoc],
        .behindStart hfirst ?_⟩
      rintro setup rest rfl _
      have hno := (cut?_eq_none_iff isCommand_keepImage.ne_nil).mp hkeep
      exact absurd ⟨setup, rest, by rw [List.append_assoc]⟩ hno
  | some cut =>
      obtain ⟨setup, rest⟩ := cut
      obtain ⟨rfl, hsetup⟩ := (cut?_eq_some_iff isCommand_keepImage).mp hkeep
      rw [List.append_assoc] at hkeep ⊢
      by_cases hends : formatEnd <:+: setup
      · obtain ⟨close, hclose, hle⟩ := (formatEnd_infix_iff rest).mp hends
        refine ⟨before ++ formatStart, setup ++ (keepImage ++ rest), ?_, by rw [List.append_assoc],
          .behindStart hfirst ?_⟩
        · simp only [hkeep, Option.mem_def.mp hclose, if_neg (Nat.not_lt.mpr hle)]
          rfl
        · intro setup' rest' heq hsetup'
          have hsame : cut? keepImage (setup ++ (keepImage ++ rest)) = some (setup', rest') :=
            (cut?_eq_some_iff isCommand_keepImage).mpr ⟨by rw [heq, List.append_assoc], hsetup'⟩
          obtain ⟨rfl, _⟩ := Prod.mk.inj (Option.some.inj (hkeep.symm.trans hsame))
          exact hends
      · refine ⟨before ++ (formatStart ++ setup), keepImage ++ rest, ?_, by simp,
          .beforeKeepImage hfirst hsetup hends⟩
        cases hclose : find? formatEnd (setup ++ (keepImage ++ rest)) with
        | none =>
            simp only [hkeep, hclose, List.drop_left, List.append_assoc]
            rfl
        | some close =>
            have hlt : setup.length < close := by
              refine Nat.lt_of_not_le fun hle => hends ?_
              exact (formatEnd_infix_iff rest).mpr ⟨close, hclose, hle⟩
            simp only [hkeep, hclose, if_pos hlt, List.drop_left, List.append_assoc]
            rfl

/-- A definition in the document stays on one side of the place. -/
theorem InsertionPoint.opening_infix {front back value : Text} (h : InsertionPoint front back)
    (hvalue : '^' ∉ value) (hin : Definitions.opening value <:+: front ++ back) :
    Definitions.opening value <:+: front ∨ Definitions.opening value <:+: back := by
  cases h with
  | @behindStart before _ _ _ =>
      rw [List.append_assoc,
        Definitions.opening_infix_append_iff hvalue (isCommand_formatStart.atCaret _),
        Definitions.opening_infix_append_of_not_mem (by decide)] at hin
      exact hin.imp_left fun h => h.trans (List.prefix_append before _).isInfix
  | beforeKeepImage =>
      exact (Definitions.opening_infix_append_iff hvalue (isCommand_keepImage.atCaret _) _).mp hin

/-! ## The answers -/

theorem withoutFormat_eq_self {t : Text} (h : FormatFree t) : withoutFormat t = t := by
  refine Scan.replace_eq_self fun u hu hsuffix => if_neg ?_
  rw [atFormatCommand_iff]
  rintro (hpre | hpre)
  · exact h.1 (hpre.isInfix.trans hsuffix.isInfix)
  · exact h.2 (hpre.isInfix.trans hsuffix.isInfix)

/-- A captured definition under another name has no format command that would be taken out. -/
theorem trim_withoutFormat_rename (h : definitions.lookup name ≠ [])
    (hvalue : '^' ∉ f.currentValue) :
    (withoutFormat (rename (definitions.lookup name) name f.currentValue)).trim =
      embeddedDefinition definitions f name := by
  obtain ⟨start, data, hlookup, hlength, hdata⟩ := Definitions.exists_lookup_eq h
  have hdrop : (definitions.lookup name).drop (storeGraphic ++ name).length = ',' :: data := by
    rw [hlookup, ← hlength, List.drop_left]
  have hfree : FormatFree (storeGraphic ++ f.currentValue ++ ',' :: data) := by
    have hsplit : storeGraphic ++ f.currentValue ++ ',' :: data =
        storeGraphic ++ f.currentValue ++ [','] ++ data := by simp
    rw [hsplit]
    exact (formatFree_append_iff (by simp [storeGraphic, hvalue]) data).mpr hdata
  have hcomma : isBlank ',' = false := by decide
  rw [rename, ← List.length_append, hdrop, withoutFormat_eq_self hfree, embeddedDefinition, hdrop]
  calc Text.trim (storeGraphic ++ f.currentValue ++ ',' :: data)
      = Text.trimEnd (storeGraphic ++ f.currentValue ++ ',' :: data) :=
        trim_cons (d := '~') (by decide) _
    _ = storeGraphic ++ f.currentValue ++ ',' :: Text.trimEnd data := trimEnd_append_cons hcomma _ _
    _ = storeGraphic ++ f.currentValue ++ Text.trimEnd (',' :: data) := by rw [trimEnd_cons hcomma]

theorem opening_prefix_embeddedDefinition (h : definitions.lookup name ≠ []) :
    Definitions.opening f.currentValue <+: embeddedDefinition definitions f name := by
  obtain ⟨start, data, hlookup, hlength, _⟩ := Definitions.exists_lookup_eq h
  rw [embeddedDefinition, hlookup, ← hlength, List.drop_left, trimEnd_cons (by decide)]
  exact ⟨Text.trimEnd data, by simp [Definitions.opening]⟩

/-! ## Requests and their answers -/

theorem wanted?_eq_some_iff : wanted? f = some name ↔
    f.kind = .image ∧ f.embedded = true ∧ f.imageName = some name ∧ name ≠ [] := by
  rw [wanted?]
  split
  · rename_i h
    rw [Bool.and_eq_true, decide_eq_true_eq] at h
    rw [Option.filter_eq_some_iff]
    simp [h.1, h.2]
  · rename_i h
    rw [Bool.and_eq_true, decide_eq_true_eq] at h
    simp only [reduceCtorEq, false_iff]
    exact fun hwanted => h ⟨hwanted.1, hwanted.2.1⟩

theorem of_mem_requests (h : (f, name) ∈ requests fields) : f ∈ fields ∧ wanted? f = some name := by
  obtain ⟨g, hg, heq⟩ := List.mem_filterMap.mp (mem_of_mem_distinctBy h)
  obtain ⟨name', hname, hpair⟩ := Option.map_eq_some_iff.mp heq
  obtain ⟨rfl, rfl⟩ := Prod.mk.inj hpair
  exact ⟨hg, hname⟩

/-- If entries with the same name are the same field, each image that wants a graphic is served. -/
theorem mem_requests (hids : ∀ f ∈ fields, ∀ g ∈ fields, f.id = g.id → f = g) (hf : f ∈ fields)
    (hwanted : wanted? f = some name) : (f, name) ∈ requests fields := by
  have hmem : (f, name) ∈ fields.filterMap fun f => (wanted? f).map fun name => (f, name) :=
    List.mem_filterMap.mpr ⟨f, hf, by rw [hwanted]; rfl⟩
  obtain ⟨⟨g, other⟩, hrequest, hid⟩ := exists_mem_distinctBy (·.1.id) hmem
  obtain ⟨hg, hother⟩ := of_mem_requests hrequest
  obtain rfl := hids g hg f hf hid
  obtain rfl := Option.some.inj (hwanted.symm.trans hother)
  exact hrequest

theorem defines_iff {value : Text} :
    defines document value = true ↔ Definitions.opening value <:+: document :=
  contains_iff (Definitions.opening_ne_nil value)

theorem answer_eq_block_iff {text : Text} :
    answer document definitions f name = .block text ↔
      ¬ Definitions.opening f.currentValue <:+: document ∧ definitions.lookup name ≠ [] ∧
        text = (withoutFormat (rename (definitions.lookup name) name f.currentValue)).trim := by
  rw [answer, ← defines_iff]
  split
  · rename_i hdefined
    simp [hdefined]
  · rename_i hnew
    split
    · rename_i hlookup
      simp [hlookup]
    · rename_i hlookup
      simp only [Answer.block.injEq]
      exact ⟨fun h => ⟨hnew, hlookup, h.symm⟩, fun h => h.2.2.symm⟩

theorem mem_blocks_iff {text : Text} : text ∈ blocks document definitions fields ↔
    ∃ f name, (f, name) ∈ requests fields ∧
      answer document definitions f name = .block text := by
  rw [blocks, mem_distinctBy_id_iff, List.mem_filterMap]
  simp only [answers, List.mem_map, Prod.exists]
  constructor
  · rintro ⟨_, ⟨f, name, hrequest, rfl⟩, htext⟩
    refine ⟨f, name, hrequest, ?_⟩
    cases hanswer : answer document definitions f name with
    | block text' =>
        rw [hanswer] at htext
        rw [Option.some.inj htext]
    | defined =>
        rw [hanswer] at htext
        exact absurd htext (by simp)
    | notFound name' =>
        rw [hanswer] at htext
        exact absurd htext (by simp)
  · rintro ⟨f, name, hrequest, hanswer⟩
    exact ⟨_, ⟨f, name, hrequest, rfl⟩, by rw [hanswer]⟩

/-- What is put in are the definitions that are missing. -/
theorem mem_blocks_iff_embeddable
    (hids : ∀ f ∈ fields, ∀ g ∈ fields, f.id = g.id → f = g)
    (hcaret : ∀ f ∈ fields, f.kind = .image → f.embedded = true → '^' ∉ f.currentValue)
    {text : Text} : text ∈ blocks document definitions fields ↔
      ∃ f ∈ fields, ∃ name, Embeddable definitions f name ∧
        ¬ Definitions.opening f.currentValue <:+: document ∧
          text = embeddedDefinition definitions f name := by
  rw [mem_blocks_iff]
  constructor
  · rintro ⟨f, name, hrequest, hanswer⟩
    obtain ⟨hf, hwanted⟩ := of_mem_requests hrequest
    obtain ⟨himage, hembedded, hcalled, hne⟩ := wanted?_eq_some_iff.mp hwanted
    obtain ⟨hnew, hlookup, rfl⟩ := answer_eq_block_iff.mp hanswer
    exact ⟨f, hf, name, ⟨himage, hembedded, hcalled, hne, hlookup⟩, hnew,
      trim_withoutFormat_rename hlookup (hcaret f hf himage hembedded)⟩
  · rintro ⟨f, hf, name, h, hnew, rfl⟩
    have hwanted := wanted?_eq_some_iff.mpr ⟨h.image, h.embedded, h.called, h.name_ne_nil⟩
    refine ⟨f, name, mem_requests hids hf hwanted, answer_eq_block_iff.mpr ⟨hnew, h.captured, ?_⟩⟩
    exact (trim_withoutFormat_rename h.captured (hcaret f hf h.image h.embedded)).symm

/-! ## The document with its graphics -/

theorem embed_of_blocks_eq_nil (h : blocks document definitions fields = []) :
    embed document definitions fields = document := by
  rw [embed, h]

theorem embed_of_no_format (h : ¬ formatStart <:+: document) :
    embed document definitions fields = document := by
  rw [embed, insertionPoint?_eq_none h]
  cases blocks document definitions fields with
  | nil => rfl
  | cons text found => rfl

theorem embed_of_insertionPoint {front back : Text}
    (h : insertionPoint? document = some (front, back))
    (hblocks : blocks document definitions fields ≠ []) :
    embed document definitions fields =
      front ++ group (blocks document definitions fields) ++ back := by
  rw [embed, h]
  cases hfound : blocks document definitions fields with
  | nil => exact absurd hfound hblocks
  | cons text found => rfl

/-- **No definition is broken by what is put in.** -/
theorem opening_infix_embed {value : Text} (hvalue : '^' ∉ value)
    (h : Definitions.opening value <:+: document) :
    Definitions.opening value <:+: embed document definitions fields := by
  by_cases hformat : formatStart <:+: document
  · by_cases hblocks : blocks document definitions fields = []
    · rwa [embed_of_blocks_eq_nil hblocks]
    · obtain ⟨front, back, hpoint, rfl, hplace⟩ := exists_insertionPoint hformat
      rw [embed_of_insertionPoint hpoint hblocks]
      rcases hplace.opening_infix hvalue h with h | h
      · rw [List.append_assoc]
        exact h.trans (List.prefix_append front _).isInfix
      · exact h.trans (List.suffix_append _ back).isInfix
  · rwa [embed_of_no_format hformat]

/-- **A document with a format gets what is to be put in.** -/
theorem infix_embed_of_mem_blocks {text : Text} (hformat : formatStart <:+: document)
    (h : text ∈ blocks document definitions fields) :
    text <:+: embed document definitions fields := by
  obtain ⟨front, back, hpoint, _, _⟩ := exists_insertionPoint hformat
  have hgroup : text <:+: group (blocks document definitions fields) := by
    obtain ⟨before, behind, heq⟩ := List.append_of_mem h
    rw [group, heq]
    exact ⟨'\n' :: before.flatMap (· ++ ['\n']), '\n' :: behind.flatMap (· ++ ['\n']), by simp⟩
  rw [embed_of_insertionPoint hpoint (List.ne_nil_of_mem h)]
  have hfront := hgroup.trans (List.suffix_append front _).isInfix
  exact hfront.trans (List.prefix_append _ back).isInfix

/--
**Embedding only puts in, puts in all that is missing, and does so once.**

Entries with the same name are the same field, and the values of images that are chosen have no
caret. Then the document gets one group of definitions, at one place, or stays as it is. Where it
has a format, every graphic that is wanted and was captured is defined afterwards under the value of
its image; if it was not before, with the captured data. Embedding again changes nothing.
-/
theorem embed_puts_in_once {document : Text} {definitions : Definitions} {fields : List Field}
    (hids : ∀ f ∈ fields, ∀ g ∈ fields, f.id = g.id → f = g)
    (hcaret : ∀ f ∈ fields, f.kind = .image → f.embedded = true → '^' ∉ f.currentValue) :
    let result := embed document definitions fields
    (result = document ∨ ∃ front back found,
      document = front ++ back ∧ InsertionPoint front back ∧ result = front ++ group found ++ back ∧
        ∀ text ∈ found, ∃ f ∈ fields, ∃ name, Embeddable definitions f name ∧
          ¬ Definitions.opening f.currentValue <:+: document ∧
            text = embeddedDefinition definitions f name) ∧
      (formatStart <:+: document → ∀ f ∈ fields, ∀ name, Embeddable definitions f name →
        Definitions.opening f.currentValue <:+: result ∧
          (¬ Definitions.opening f.currentValue <:+: document →
            embeddedDefinition definitions f name <:+: result)) ∧
      embed result definitions fields = result := by
  intro result
  have hmissing : ∀ document text, text ∈ blocks document definitions fields ↔ _ :=
    fun document text => mem_blocks_iff_embeddable hids hcaret
  have hcomplete : formatStart <:+: document → ∀ f ∈ fields, ∀ name, Embeddable definitions f name →
      Definitions.opening f.currentValue <:+: result ∧
        (¬ Definitions.opening f.currentValue <:+: document →
          embeddedDefinition definitions f name <:+: result) := by
    intro hformat f hf name h
    have hnew : ¬ Definitions.opening f.currentValue <:+: document →
        embeddedDefinition definitions f name <:+: result := fun hnew =>
      infix_embed_of_mem_blocks hformat ((hmissing document _).mpr ⟨f, hf, name, h, hnew, rfl⟩)
    refine ⟨?_, hnew⟩
    by_cases hthere : Definitions.opening f.currentValue <:+: document
    · exact opening_infix_embed (hcaret f hf h.image h.embedded) hthere
    · exact (opening_prefix_embeddedDefinition h.captured).isInfix.trans (hnew hthere)
  by_cases hformat : formatStart <:+: document
  · refine ⟨?_, hcomplete, ?_⟩
    · by_cases hblocks : blocks document definitions fields = []
      · exact .inl (embed_of_blocks_eq_nil hblocks)
      · obtain ⟨front, back, hpoint, heq, hplace⟩ := exists_insertionPoint hformat
        exact .inr ⟨front, back, _, heq, hplace, embed_of_insertionPoint hpoint hblocks,
          fun text htext => (hmissing document text).mp htext⟩
    · -- whatever would be put in now is there
      refine embed_of_blocks_eq_nil (List.eq_nil_iff_forall_not_mem.mpr fun text htext => ?_)
      obtain ⟨f, hf, name, h, hnew, _⟩ := (hmissing result text).mp htext
      exact hnew (hcomplete hformat f hf name h).1
  · have hsame : result = document := embed_of_no_format hformat
    exact ⟨.inl hsame, hcomplete, by rw [hsame]; exact hsame⟩

/-- A graphic that was captured in lower case, and a label image that is kept. -/
theorem embed_puts_in_once_of_other_case :
    let document := "^XA^PW8^MCY^FO1,2".toList ++ "^XGZ,1,1^FS^XZ".toList
    let definitions : Definitions := { text := "~dgk,1,1,00 ^XA".toList }
    let f : Field :=
      { id := .found 0, kind := .image, position := ⟨1, 2⟩, templateValue := ['K']
        currentValue := ['Z'], imageName := some ['K'], embedded := true }
    let result := embed document definitions [f]
    (∀ g ∈ [f], ∀ h ∈ [f], g.id = h.id → g = h) ∧
      (∀ g ∈ [f], g.kind = .image → g.embedded = true → '^' ∉ g.currentValue) ∧
      Embeddable definitions f ['K'] ∧ ¬ Definitions.opening f.currentValue <:+: document ∧
      embeddedDefinition definitions f ['K'] = "~DGZ,1,1,00".toList ∧
      result = "^XA^PW8\n~DGZ,1,1,00\n^MCY^FO1,2".toList ++ "^XGZ,1,1^FS^XZ".toList ∧
      embeddedDefinition definitions f ['K'] <:+: result ∧
      embed result definitions [f] = result := by
  intro document definitions f result
  have hids : ∀ g ∈ [f], ∀ h ∈ [f], g.id = h.id → g = h := by simp
  have hcaret : ∀ g ∈ [f], g.kind = .image → g.embedded = true → '^' ∉ g.currentValue := by
    decide +kernel
  have hwanted : Embeddable definitions f ['K'] := ⟨rfl, rfl, rfl, by simp, by decide +kernel⟩
  have hnew : ¬ Definitions.opening f.currentValue <:+: document := by decide +kernel
  obtain ⟨_, hcomplete, honce⟩ := @embed_puts_in_once document definitions [f] hids hcaret
  have hembedded := (hcomplete (by decide +kernel) f (by simp) ['K'] hwanted).2 hnew
  exact ⟨hids, hcaret, hwanted, hnew, by decide +kernel, by decide +kernel, hembedded, honce⟩

end Embedding

end LabelTemplate
