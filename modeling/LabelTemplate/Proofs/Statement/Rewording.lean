import LabelTemplate.Proofs.Statement.Revision

/-!
# Giving a statement another value, as other scans see it

A statement of one kind is only text to the scans for the other kinds. Where such a scan
matches nothing at a statement, it must match nothing there after the value was
changed, and what it finds elsewhere must stay the same. That holds if the new value has no caret
(`Valid.exists_quiet`): then the end of the statement is a row of commands none of which
opens a statement, and it lets nothing run on that did not run on before.

There is one case in which a scan for another kind does match: a bar code that is
read as a text. It is then read as the same text with another kind (`asText`).
-/

namespace LabelTemplate.Statement

open Text Command Scan

/-! ## Text without matches -/

/-- The scan for statements of the kind passes over this text, whatever follows it. -/
def Unmatched (kind : FieldKind) (t : Text) : Prop :=
  ∀ rest, pieces (recognise kind) (t ++ rest) = t.map .plain ++ pieces (recognise kind) rest

theorem unmatched_nil (kind : FieldKind) : Unmatched kind [] := fun _ => rfl

theorem Unmatched.append {kind : FieldKind} {t u : Text} (ht : Unmatched kind t)
    (hu : Unmatched kind u) : Unmatched kind (t ++ u) := by
  intro rest
  rw [List.append_assoc, ht, hu, List.map_append, List.append_assoc]

theorem unmatched_cons {kind : FieldKind} {c : Char} {t : Text} (ht : Unmatched kind t)
    (hno : ∀ rest, ¬ kind.opener <+: c :: (t ++ rest)) : Unmatched kind (c :: t) := by
  intro rest
  have hnone : recognise kind (c :: (t ++ rest)) = none := by
    refine Option.eq_none_iff_forall_ne_some.mpr fun ⟨s, n⟩ h => hno rest ?_
    obtain ⟨rfl, _, hpre, _⟩ := recognise_eq_some_iff.mp h
    rw [text_eq] at hpre
    exact (List.prefix_append _ _).trans hpre
  rw [List.cons_append, pieces_of_none hnone, ht]
  rfl

theorem unmatched_of_not_mem {kind : FieldKind} {t : Text} (h : '^' ∉ t) : Unmatched kind t := by
  induction t with
  | nil => exact unmatched_nil kind
  | cons c t ih =>
      rw [List.mem_cons, not_or] at h
      refine unmatched_cons (ih h.2) fun rest hpre => h.1 ?_
      obtain ⟨name, hopener, _⟩ := isCommand_opener kind
      rw [hopener, List.cons_prefix_cons] at hpre
      exact hpre.1

/-- Nothing is matched at a command that does not open a statement of the kind. -/
theorem Headed.unmatched {kind : FieldKind} {word q : Text} (h : Headed word q)
    (hword : kind.opener ≠ word) : Unmatched kind q := by
  obtain ⟨name, rfl, hname⟩ := h.isCommand
  refine unmatched_cons (unmatched_of_not_mem hname) fun rest hpre => hword ?_
  exact h.eq_of_prefix (by cases kind <;> rfl) hpre

/-! ## What completes a statement -/

theorem exists_stop_prefix {kind : FieldKind} {v : Text} (hv : ValidValue kind v) (r : Text) :
    ∃ p, Stop kind p ∧ p <+: kind.dataCommand ++ (v ++ kind.closer) ++ r := by
  cases kind with
  | image => exact ⟨_, .call hv, by simp [FieldKind.dataCommand, FieldKind.closer]⟩
  | barcode => exact ⟨_, .fieldData (by decide), by simp [FieldKind.dataCommand]⟩
  | text => exact ⟨_, .fieldData (by decide), by simp [FieldKind.dataCommand]⟩

/-- A command at which no stop begins has no say in what a text completes. -/
theorem completes_command_append_iff {kind : FieldKind} {q r : Text} (hq : IsCommand q)
    (hno : ∀ p, Stop kind p → ¬ p <+: q ++ r) : Completes kind (q ++ r) ↔ Completes kind r := by
  constructor
  · rintro ⟨m, v, hm, hv, rest, h⟩
    rw [List.append_assoc] at h
    by_cases hnil : m = []
    · -- the data would begin with a stop, but none begins here
      subst hnil
      obtain ⟨p, hp, hpre⟩ := exists_stop_prefix hv rest
      exact absurd (by rw [← h]; exact hpre) (hno p hp)
    · have hcaret := ((isCommand_dataCommand kind).atCaret (v ++ kind.closer)).append rest
      obtain ⟨m', rfl, rfl⟩ := hq.exists_append_of_append_eq hnil hcaret h.symm
      exact ⟨m', v, hm.of_infix (List.suffix_append q m').isInfix, hv, rest, by simp⟩
  · rintro ⟨m, v, hm, hv, rest, rfl⟩
    refine ⟨q ++ m, v, free_command_append hq (fun p hp hpre => hno p hp ?_) hm, hv, rest,
      by simp⟩
    exact hpre.trans ((List.prefix_append_right_inj q).mpr (by simp))

theorem not_completes_of_fieldEnd (kind : FieldKind) (r : Text) :
    ¬ Completes kind (fieldEnd ++ r) := by
  rintro ⟨m, v, hm, _, rest, h⟩
  rw [List.append_assoc] at h
  by_cases hnil : m = []
  · subst hnil
    have hpre : kind.dataCommand <+: fieldEnd ++ r := by rw [← h]; simp
    have hword := headed_fieldEnd.eq_of_prefix (headed_dataCommand kind).three hpre
    cases kind <;> exact absurd hword (by decide)
  · have hcaret := ((isCommand_dataCommand kind).atCaret (v ++ kind.closer)).append rest
    obtain ⟨m', rfl, _⟩ := isCommand_fieldEnd.exists_append_of_append_eq hnil hcaret h.symm
    exact hm _ (.fieldEnd kind) (List.prefix_append _ _).isInfix

/-! ## Quiet changes -/

/-- With `new` in place of `old` the scan for statements of the kind finds what it found before. -/
structure Quiet (kind : FieldKind) (old new : Text) : Prop where
  /-- Nothing runs into the new text that did not run into the old one. -/
  replaceable : ∀ rest, Replaceable kind (old ++ rest) (new ++ rest)
  /-- Nothing is matched in the new text. -/
  unmatched : Unmatched kind new

/-- The scan passes over a text with a quiet change in it as it passed over the text before. -/
theorem Quiet.pieces_append {kind : FieldKind} {front old new rest out : Text}
    (h : Quiet kind old new) (hrest : Replaceable kind rest out)
    (hplain : pieces (recognise kind) (front ++ old ++ rest) =
      (front ++ old).map .plain ++ pieces (recognise kind) rest) :
    Replaceable kind (front ++ old ++ rest) (front ++ new ++ out) ∧
      pieces (recognise kind) (front ++ new ++ out) =
        (front ++ new).map .plain ++ pieces (recognise kind) out := by
  have hex := exact_recognise kind
  have hreplaceable : Replaceable kind (old ++ rest) (new ++ out) :=
    (h.replaceable rest).trans (hrest.append_left new)
  simp only [List.append_assoc, List.map_append] at hplain ⊢
  refine ⟨hreplaceable.append_left front, ?_⟩
  have hold := pieces_of_eq_append hex (front.map .plain) hplain
  rw [spell_append, spell_map_plain, spell_pieces hex] at hold
  have hnew : pieces (recognise kind) (spell (front.map .plain) ++ (new ++ out)) = _ :=
    pieces_append_of_replaceable hreplaceable (by rw [spell_map_plain, hold, hplain])
  rw [spell_map_plain] at hnew
  rw [hnew, h.unmatched]

/-- The data of a text or a bar code, with or without a hex marker in front. -/
theorem quiet_data {kind : FieldKind} {v v' marker : Text} (hv : ¬ fieldEnd <:+: v)
    (hv' : '^' ∉ v') (hmarker : marker = [] ∨ marker = hexMarker) :
    Quiet kind (fieldData ++ (v ++ fieldEnd)) (marker ++ (fieldData ++ v' ++ fieldEnd)) := by
  have hdata : Headed fieldData (fieldData ++ v') :=
    (headed_self isCommand_fieldData rfl).append hv'
  constructor
  · intro rest
    refine replaceable_of_completes ?_ ?_ ?_ ?_ ?_
    · rw [List.append_assoc]
      exact isCommand_fieldData.atCaret _
    · rcases hmarker with rfl | rfl
      · exact ⟨_, rfl⟩
      · exact ⟨_, rfl⟩
    · intro lead hlead hpre
      rcases hmarker with rfl | rfl
      · rw [List.nil_append, List.append_assoc] at hpre
        exact hdata.eq_nil_of_isLead (by decide) hlead hpre
      · rw [List.append_assoc] at hpre
        exact headed_hexMarker.eq_nil_of_isLead (by decide) hlead hpre
    · intro hnew
      by_cases hkind : kind = .image
      · -- the new statement ends before any call, so it completes no image
        subst hkind
        refine absurd ?_ (not_completes_of_fieldEnd .image rest)
        rw [← completes_command_append_iff hdata.isCommand (hdata.not_prefix (by decide)),
          ← List.append_assoc]
        rcases hmarker with rfl | rfl
        · exact hnew
        · rwa [List.append_assoc, completes_command_append_iff isCommand_hexMarker
            (headed_hexMarker.not_prefix (by decide))] at hnew
      · -- the old data complete whatever is open
        exact ⟨[], v, free_nil kind, (validValue_iff hkind).mpr hv, rest,
          by simp [dataCommand_eq hkind, closer_eq hkind]⟩
    · intro _ _
      exact ⟨fieldData ++ v, rest, by simp⟩
  · have hplain : Unmatched kind (fieldData ++ v' ++ fieldEnd) :=
      (hdata.unmatched (by cases kind <;> decide)).append
        (headed_fieldEnd.unmatched (by cases kind <;> decide))
    rcases hmarker with rfl | rfl
    · exact hplain
    · exact (headed_hexMarker.unmatched (by cases kind <;> decide)).append hplain

/-- The name that an image calls, for the scans of the other kinds. -/
theorem quiet_call {kind : FieldKind} (hkind : kind ≠ .image) {v v' : Text} (hv : '^' ∉ v)
    (hv' : '^' ∉ v') :
    Quiet kind (graphicCall ++ (v ++ [','])) (graphicCall ++ (v' ++ [','])) := by
  have hcall : ∀ u : Text, '^' ∉ u → Headed graphicCall (graphicCall ++ (u ++ [','])) :=
    fun u hu => (headed_self isCommand_graphicCall rfl).append (by simp [hu])
  have hold := hcall v hv
  have hnew := hcall v' hv'
  have hword : graphicCall ∉ [fieldEnd, kind.dataCommand] := by
    cases kind with
    | image => exact absurd rfl hkind
    | barcode => decide
    | text => decide
  refine ⟨fun rest => replaceable_of_completes (hold.isCommand.atCaret rest)
    (hnew.isCommand.atCaret rest) (fun lead => hnew.eq_nil_of_isLead (by decide)) ?_ ?_,
    hnew.unmatched (by cases kind <;> decide)⟩
  · rw [completes_command_append_iff hnew.isCommand (hnew.not_prefix hword),
      completes_command_append_iff hold.isCommand (hold.not_prefix hword)]
    exact id
  · intro _
    have hend := Stop.fieldEnd kind
    rw [isCommand_fieldEnd.infix_command_append_iff hnew.isCommand (hnew.not_prefix hword _ hend),
      isCommand_fieldEnd.infix_command_append_iff hold.isCommand (hold.not_prefix hword _ hend)]
    exact id

/-! ## A new value -/

/-- A change that gives a statement of the kind another value, without carets, and nothing else. -/
structure Change.Rewords (kind : FieldKind) (change : Change) : Prop where
  /-- There is a new value. -/
  value : ∃ v, change.value = some v ∧ '^' ∉ v ∧ ValidValue kind v
  /-- The statement is not moved. -/
  position : change.position = none
  /-- Only texts get hex markers. -/
  ensureHex : change.ensureHex = true → kind = .text

theorem Change.Rewords.admissible {kind : FieldKind} {change : Change} (h : change.Rewords kind) :
    change.Admissible kind := by
  obtain ⟨v, hv, _, hvalid⟩ := h.value
  constructor
  · intro v' hv'
    rw [hv] at hv'
    exact Option.some.inj hv' ▸ hvalid
  · intro p hp
    rw [h.position] at hp
    exact absurd hp (by simp)

/-- **A statement with another value is quiet for every scan that does not match it.** -/
theorem Valid.exists_quiet {s : Statement} (hs : s.Valid) {change : Change}
    (hchange : change.Rewords s.kind) {kind : FieldKind}
    (hkind : kind ≠ .image ∨ s.kind ≠ .image) :
    ∃ front old new, s.text = front ++ old ∧ s.render change = front ++ new ∧
      Quiet kind old new := by
  obtain ⟨v, hv, hcaret, _⟩ := hchange.value
  let marker := if s.addsMarker change then hexMarker else []
  have hrender : s.render change = s.front ++ s.middle ++
      (marker ++ (s.kind.dataCommand ++ (v ++ s.kind.closer))) := by
    simp [render, front, hv, hchange.position, marker]
  have htext : s.text =
      s.front ++ s.middle ++ (s.kind.dataCommand ++ (s.value ++ s.kind.closer)) := by
    simp [text_eq_front]
  refine ⟨_, _, _, htext, hrender, ?_⟩
  by_cases himage : s.kind = .image
  · have hmarker : marker = [] := by simp [marker, addsMarker, himage]
    have hvalue := hs.value
    rw [himage] at hvalue
    rw [hmarker, himage]
    exact quiet_call (hkind.resolve_right (by simp [himage])) (not_mem_of_isName hvalue.2) hcaret
  · have hmarker : marker = [] ∨ marker = hexMarker := by
      simp only [marker]
      split
      · exact Or.inr rfl
      · exact Or.inl rfl
    rw [dataCommand_eq himage, closer_eq himage, ← List.append_assoc fieldData v]
    exact quiet_data ((validValue_iff himage).mp hs.value) hcaret hmarker

/-! ## A bar code read as a text -/

/-- The statement with the same parts as a text. -/
def asText (s : Statement) : Statement := { s with kind := .text }

theorem text_asText {s : Statement} (hkind : s.kind = .barcode) : s.asText.text = s.text := by
  rw [text_eq, text_eq, hkind]
  rfl

/-- A bar code is also a text: its command is one that the search passes over. -/
theorem Valid.asText {s : Statement} (hs : s.Valid) (hkind : s.kind = .barcode) :
    s.asText.Valid := by
  obtain ⟨lead, rest, hmiddle, hlead, hfree⟩ := hs.middle
  have hvalue := hs.value
  rw [hkind] at hlead hfree hvalue
  have hstop : ∀ p, Stop .text p → Stop .barcode p := by
    intro p hp
    cases hp with
    | fieldEnd => exact .fieldEnd _
    | fieldData => exact .fieldData (by decide)
  -- to the scan for texts the command is one more to pass over
  have hfree' : Free .text (lead ++ rest) := by
    obtain ⟨word, hword, hheaded⟩ := hlead.headed
    refine hheaded.free_append ?_ fun p hp => hfree p (hstop p hp)
    simp only [List.mem_cons, List.not_mem_nil, or_false] at hword
    rcases hword with rfl | rfl <;> decide
  exact ⟨hs.x, hs.y, hs.boundary, ⟨[], lead ++ rest, hmiddle, rfl, hfree'⟩, hvalue⟩

theorem render_asText {s : Statement} (hkind : s.kind = .barcode) {change : Change}
    (hchange : change.Rewords .barcode) : s.asText.render change = s.render change := by
  have hensure : change.ensureHex = false := by
    rw [Bool.eq_false_iff]
    exact fun h => absurd (hchange.ensureHex h) (by decide)
  simp [render, asText, hkind, addsMarker, hensure, coordinates, FieldKind.opener,
    FieldKind.dataCommand, FieldKind.closer]

end LabelTemplate.Statement
