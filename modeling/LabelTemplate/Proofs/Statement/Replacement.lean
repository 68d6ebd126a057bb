import LabelTemplate.Proofs.Statement.Records

/-!
# Replacing the end of a document

What the scan finds in the front part of a document may depend on the rest of it: a
statement that is not over where the front part ends runs on. `Replaceable` says that
a new rest lets nothing run on that did not run on into the old one. Then the scan of
the front part is the same with either rest (`pieces_append_of_replaceable`).

A statement that runs on can be cut at the caret with which the rest begins, and all
it wants of the rest is to be completed: by a data command with what belongs to it, or,
if it is within its data already, by the end of a statement. So a rest is replaceable
as soon as the old one completes whatever the new one does (`replaceable_of_completes`),
and a rest that begins with a statement of the same kind is replaceable by anything
that begins with one, since it completes all there is.
-/

namespace LabelTemplate.Statement

open Text Command Scan

/-- Whatever statement of the kind runs into `new` could have run into `old`. -/
def Replaceable (kind : FieldKind) (old new : Text) : Prop :=
  ∀ before, before ≠ [] → (match? kind (before ++ new)).isSome = true →
    (match? kind (before ++ old)).isSome = true

theorem Replaceable.refl (kind : FieldKind) (t : Text) : Replaceable kind t t :=
  fun _ _ h => h

theorem Replaceable.trans {kind : FieldKind} {t u v : Text} (htu : Replaceable kind t u)
    (huv : Replaceable kind u v) : Replaceable kind t v :=
  fun before hne h => htu before hne (huv before hne h)

theorem Replaceable.append_left {kind : FieldKind} {old new : Text} (h : Replaceable kind old new)
    (t : Text) : Replaceable kind (t ++ old) (t ++ new) := by
  intro before hne hmatch
  rw [← List.append_assoc] at hmatch ⊢
  exact h (before ++ t) (by simp [hne]) hmatch

/-- **The scan of the front part is the same with a replaceable rest.** -/
theorem pieces_append_of_replaceable {kind : FieldKind} {old new : Text}
    (h : Replaceable kind old new) {ps : List (Piece Statement)}
    (hps : pieces (recognise kind) (spell ps ++ old) = ps ++ pieces (recognise kind) old) :
    pieces (recognise kind) (spell ps ++ new) = ps ++ pieces (recognise kind) new := by
  induction ps with
  | nil => rfl
  | cons p ps ih =>
      cases p with
      | plain c =>
          rw [spell_cons, Piece.text, List.append_assoc, List.singleton_append] at hps ⊢
          cases hold : recognise kind (c :: (spell ps ++ old)) with
          | some found =>
              -- a match here would have been a piece
              obtain ⟨s, n⟩ := found
              obtain ⟨hpos, hle⟩ := exact_recognise kind _ _ _ hold
              rw [pieces_of_some hold hpos hle] at hps
              exact absurd (List.cons.inj hps).1 (by simp)
          | none =>
              rw [pieces_of_none hold] at hps
              -- a match that starts here would have run into the old rest too
              have hnew : recognise kind (c :: (spell ps ++ new)) = none := by
                rw [recognise_eq_none_iff] at hold ⊢
                have := h (c :: spell ps) (by simp)
                rw [List.cons_append, List.cons_append, hold] at this
                simpa using this
              rw [pieces_of_none hnew, ih (List.cons.inj hps).2]
              rfl
      | hit s raw =>
          -- a statement delimits itself, so it is found with any rest
          obtain ⟨rfl, hs, rfl⟩ := scanned_pieces kind _ s raw (by rw [hps]; simp)
          rw [spell_cons, Piece.text, List.append_assoc, hs.pieces_append] at hps ⊢
          rw [ih (List.cons.inj hps).2]
          rfl

/-! ## Cutting a statement that runs on -/

/-- The opener and the coordinates. -/
def front (s : Statement) : Text := s.kind.opener ++ s.coordinates

theorem text_eq_front (s : Statement) :
    s.text = s.front ++ (s.middle ++ (s.kind.dataCommand ++ (s.value ++ s.kind.closer))) := by
  simp [text, front]

theorem Valid.not_mem_coordinates {s : Statement} (hs : s.Valid) : '^' ∉ s.coordinates := by
  have hx := not_mem_of_isCoordinate hs.x
  have hy := not_mem_of_isCoordinate hs.y
  simp [coordinates, hx, hy]

theorem Valid.isCommand_front {s : Statement} (hs : s.Valid) : IsCommand s.front :=
  (isCommand_opener s.kind).append hs.not_mem_coordinates

/-- Could this complete a statement whose coordinates and lead are already there? -/
def Completes (kind : FieldKind) (t : Text) : Prop :=
  ∃ m v, Free kind m ∧ ValidValue kind v ∧ m ++ (kind.dataCommand ++ (v ++ kind.closer)) <+: t

/--
Where a caret can cut a statement: in its middle behind the lead, or within the data
of a text or a bar code.
-/
theorem Valid.cut_cases {s : Statement} (hs : s.Valid) {w z : Text} (h : s.text = w ++ z)
    (hw : w ≠ []) (hz : AtCaret z) (hlead : ∀ lead, IsLead s.kind lead → lead <+: z → lead = []) :
    (∃ lead m m', w = s.front ++ (lead ++ m) ∧ s.middle = lead ++ (m ++ m') ∧ IsLead s.kind lead ∧
        Free s.kind (m ++ m') ∧ z = m' ++ (s.kind.dataCommand ++ (s.value ++ s.kind.closer))) ∨
    (s.kind ≠ .image ∧ ∃ v v', w = s.front ++ (s.middle ++ (s.kind.dataCommand ++ v)) ∧
        s.value = v ++ v' ∧ z = v' ++ fieldEnd) := by
  obtain ⟨lead, rest, hmiddle, hisLead, hfree⟩ := hs.middle
  rw [text_eq_front] at h
  obtain ⟨w₁, rfl, hbehind⟩ := hs.isCommand_front.exists_append_of_append_eq hw hz h
  rw [hmiddle, List.append_assoc] at hbehind
  -- the lead is on the near side
  obtain ⟨w₂, rfl, hrest⟩ : ∃ w₂, w₁ = lead ++ w₂ ∧
      rest ++ (s.kind.dataCommand ++ (s.value ++ s.kind.closer)) = w₂ ++ z := by
    rcases hisLead.eq_nil_or_isCommand with rfl | ⟨_, hcommand⟩
    · exact ⟨w₁, rfl, hbehind⟩
    · cases w₁ with
      | nil => exact absurd (hlead lead hisLead ⟨_, hbehind⟩) hcommand.ne_nil
      | cons c w₁ => exact hcommand.exists_append_of_append_eq (by simp) hz hbehind
  rcases List.append_eq_append_iff.mp hrest with ⟨a, rfl, hdata⟩ | ⟨m', rfl, rfl⟩
  · cases a with
    | nil =>
        exact Or.inl ⟨lead, rest, [], by simp, by simpa using hmiddle, hisLead,
          by simpa using hfree, by simpa using hdata.symm⟩
    | cons c a =>
        -- the data command is on the near side too, so the cut is in the value
        obtain ⟨v, hv, hvalue⟩ :=
          (isCommand_dataCommand s.kind).exists_append_of_append_eq (by simp) hz hdata
        have hcaret : '^' ∈ s.value ++ s.kind.closer := hvalue ▸ List.mem_append_right v hz.mem
        have hkind : s.kind ≠ .image := by
          intro hkind
          have hname := hs.value
          rw [hkind] at hname hcaret
          simp [not_mem_of_isName hname.2, FieldKind.closer] at hcaret
        rw [closer_eq hkind] at hvalue
        refine Or.inr ⟨hkind, v, ?_⟩
        rcases List.append_eq_append_iff.mp hvalue with ⟨d, rfl, hend⟩ | ⟨v', hv', rfl⟩
        · cases d with
          | nil => exact ⟨[], by rw [hmiddle, hv]; simp, by simp, by simpa using hend.symm⟩
          | cons d ds =>
              exact absurd hz.mem (isCommand_fieldEnd.not_mem_of_append hend (by simp))
        · exact ⟨v', by rw [hmiddle, hv]; simp, hv', rfl⟩
  · exact Or.inl ⟨lead, w₂, m', rfl, hmiddle, hisLead, hfree, rfl⟩

/-- A statement that is cut in its middle, with something else behind the cut. -/
theorem Valid.of_cut_middle {s : Statement} (hs : s.Valid) {lead m m' n v : Text}
    (hmiddle : s.middle = lead ++ (m ++ m')) (hlead : IsLead s.kind lead)
    (hfree : Free s.kind (m ++ m')) (hcaret : n = [] ∨ AtCaret n) (hn : Free s.kind n)
    (hv : ValidValue s.kind v) :
    ({ s with middle := lead ++ (m ++ n), value := v } : Statement).Valid := by
  refine ⟨hs.x, hs.y, ?_, ⟨lead, m ++ n, rfl, hlead, ?_⟩, hv⟩
  · -- behind the coordinates stands the old middle, or else the caret of the rest
    intro c hc
    have hboundary := hs.boundary
    rw [hmiddle, ← List.append_assoc] at hboundary
    have hc : c ∈ ((lead ++ m) ++ n).head? := by rw [List.append_assoc]; exact hc
    cases hlm : lead ++ m with
    | cons d ds =>
        rw [hlm] at hc hboundary
        exact hboundary c hc
    | nil =>
        rw [hlm, List.nil_append] at hc
        rcases hcaret with rfl | ⟨u, rfl⟩
        · exact absurd hc (by simp)
        · obtain rfl := Option.some.inj hc
          decide
  · exact free_append (hfree.of_infix (List.prefix_append m m').isInfix) hn hcaret

/-- A statement that is open in its middle is completed by whatever completes one. -/
theorem Valid.isSome_match?_of_completes {s : Statement} (hs : s.Valid) {lead m m' old : Text}
    (hmiddle : s.middle = lead ++ (m ++ m')) (hlead : IsLead s.kind lead)
    (hfree : Free s.kind (m ++ m')) (hold : AtCaret old) (h : Completes s.kind old) :
    (match? s.kind (s.front ++ (lead ++ m) ++ old)).isSome = true := by
  obtain ⟨n, v, hn, hv, hpre⟩ := h
  have hcaret : n = [] ∨ AtCaret n := by
    by_cases hne : n = []
    · exact Or.inl hne
    · exact .inr <| AtCaret.of_prefix hold ((List.prefix_append _ _).trans hpre) hne
  let s' : Statement := { s with middle := lead ++ (m ++ n), value := v }
  refine Option.isSome_iff_exists.mpr ⟨s', match?_eq_some_iff.mpr ⟨rfl, ?_, ?_⟩⟩
  · exact hs.of_cut_middle hmiddle hlead hfree hcaret hn hv
  · obtain ⟨rest, rfl⟩ := hpre
    exact ⟨rest, by simp [s', text_eq_front, front, coordinates]⟩

/-- A statement that is open in its data is completed by any end of a statement. -/
theorem Valid.isSome_match?_of_fieldEnd {s : Statement} (hs : s.Valid) (hkind : s.kind ≠ .image)
    {v v' old : Text} (hvalue : s.value = v ++ v') (hold : AtCaret old)
    (h : fieldEnd <:+: old) :
    (match? s.kind (s.front ++ (s.middle ++ (s.kind.dataCommand ++ v)) ++ old)).isSome = true := by
  cases hcut : cut? fieldEnd old with
  | none => exact absurd h ((cut?_eq_none_iff isCommand_fieldEnd.ne_nil).mp hcut)
  | some ab =>
      obtain ⟨b, after⟩ := ab
      obtain ⟨rfl, hb⟩ := (cut?_eq_some_iff isCommand_fieldEnd).mp hcut
      let s' : Statement := { s with value := v ++ b }
      have hvalid : ¬ fieldEnd <:+: v ++ b := by
        have hv : ¬ fieldEnd <:+: v := by
          intro hin
          have hin' : fieldEnd <:+: s.value := hvalue ▸ hin.trans (List.prefix_append v v').isInfix
          exact (validValue_iff hkind).mp hs.value hin'
        cases b with
        | nil => simpa using hv
        | cons c b =>
            have hcaret : AtCaret (c :: b) := hold.of_prefix (by simp) (by simp)
            rw [isCommand_fieldEnd.infix_append_iff hcaret, not_or]
            exact ⟨hv, hb⟩
      refine Option.isSome_iff_exists.mpr ⟨s', match?_eq_some_iff.mpr ⟨rfl, ?_, ?_⟩⟩
      · exact ⟨hs.x, hs.y, hs.boundary, hs.middle, (validValue_iff hkind).mpr hvalid⟩
      · exact ⟨after, by simp [s', text_eq_front, front, coordinates, closer_eq hkind]⟩

/--
**A rest is replaceable by one that completes no more than it does.**

Both begin with a caret, so a statement that runs on is cut there. The new rest must
not begin with a lead: that would belong to the coordinates before it.
-/
theorem replaceable_of_completes {kind : FieldKind} {old new : Text} (hold : AtCaret old)
    (hnew : AtCaret new) (hlead : ∀ lead, IsLead kind lead → lead <+: new → lead = [])
    (hcompletes : Completes kind new → Completes kind old)
    (hend : kind ≠ .image → fieldEnd <:+: new → fieldEnd <:+: old) :
    Replaceable kind old new := by
  intro before hne hmatch
  obtain ⟨s, hmatch⟩ := Option.isSome_iff_exists.mp hmatch
  obtain ⟨rfl, hs, hpre⟩ := match?_eq_some_iff.mp hmatch
  rcases List.prefix_or_prefix_of_prefix hpre (List.prefix_append before new) with hin | ⟨z, hz⟩
  · -- the statement is over before the rest begins
    exact Option.isSome_iff_exists.mpr
      ⟨s, match?_eq_some_iff.mpr ⟨rfl, hs, hin.trans (List.prefix_append _ _)⟩⟩
  · by_cases hnil : z = []
    · subst hnil
      rw [List.append_nil] at hz
      exact Option.isSome_iff_exists.mpr
        ⟨s, match?_eq_some_iff.mpr ⟨rfl, hs, hz ▸ List.prefix_append _ _⟩⟩
    · rw [← hz, List.prefix_append_right_inj] at hpre
      have hcaret : AtCaret z := hnew.of_prefix hpre hnil
      rcases hs.cut_cases hz.symm hne hcaret fun lead hl hlz => hlead lead hl (hlz.trans hpre)
        with ⟨lead, m, m', rfl, hmiddle, hl, hfree, rfl⟩ | ⟨hkind, v, v', rfl, hvalue, rfl⟩
      · have hm' : Free s.kind m' := hfree.of_infix (List.suffix_append m m').isInfix
        exact hs.isSome_match?_of_completes hmiddle hl hfree hold
          (hcompletes ⟨m', s.value, hm', hs.value, hpre⟩)
      · exact hs.isSome_match?_of_fieldEnd hkind hvalue hold
          (hend hkind ((List.suffix_append v' fieldEnd).isInfix.trans hpre.isInfix))

/-! ## Commands by their words -/

/-- A command that begins with a given word of three characters. -/
structure Headed (word q : Text) : Prop where
  /-- It is a command. -/
  isCommand : IsCommand q
  /-- The word stands at its beginning. -/
  begins : word <+: q
  /-- The word is as long as the words that are looked for. -/
  three : word.length = 3

theorem headed_self {word : Text} (h : IsCommand word) (hthree : word.length = 3) :
    Headed word word := ⟨h, List.prefix_refl _, hthree⟩

theorem Headed.append {word q v : Text} (h : Headed word q) (hv : '^' ∉ v) :
    Headed word (q ++ v) :=
  ⟨h.isCommand.append hv, h.begins.trans (List.prefix_append q v), h.three⟩

theorem headed_opener (kind : FieldKind) : Headed kind.opener kind.opener :=
  headed_self (isCommand_opener kind) (by cases kind <;> rfl)

theorem headed_dataCommand (kind : FieldKind) : Headed kind.dataCommand kind.dataCommand :=
  headed_self (isCommand_dataCommand kind) (by cases kind <;> rfl)

theorem headed_fieldEnd : Headed fieldEnd fieldEnd := headed_self isCommand_fieldEnd rfl

theorem headed_hexMarker : Headed hexMarker hexMarker := headed_self isCommand_hexMarker rfl

theorem Valid.headed_front {s : Statement} (hs : s.Valid) : Headed s.kind.opener s.front :=
  (headed_opener s.kind).append hs.not_mem_coordinates

theorem IsLead.headed {lead : Text} (h : IsLead .barcode lead) :
    ∃ word ∈ [ean13, code128], Headed word lead := by
  have hcommand := h.isCommand
  obtain ⟨word, hword, orientation, hupper, rfl⟩ := h
  refine ⟨word, hword, hcommand, List.prefix_append _ _, ?_⟩
  simp only [List.mem_cons, List.not_mem_nil, or_false] at hword
  rcases hword with rfl | rfl <;> rfl

/-- What begins with a command begins with no other word of three characters. -/
theorem Headed.eq_of_prefix {word q r other : Text} (h : Headed word q)
    (hother : other.length = 3) (hpre : other <+: q ++ r) : other = word := by
  have hlength : other.length = word.length := by rw [hother, h.three]
  have hin : other <+: word := List.prefix_of_prefix_length_le hpre
    (h.begins.trans (List.prefix_append q r)) (by omega)
  exact hin.eq_of_length hlength

/-- No stop begins where a command of another word does. -/
theorem Headed.not_prefix {kind : FieldKind} {word q r : Text} (h : Headed word q)
    (hword : word ∉ [fieldEnd, kind.dataCommand]) : ∀ p, Stop kind p → ¬ p <+: q ++ r := by
  intro p hp hpre
  obtain ⟨w, hw, hwp⟩ := hp.exists_word
  have hthree : w.length = 3 := by
    simp only [List.mem_cons, List.not_mem_nil, or_false] at hw
    rcases hw with rfl | rfl
    · rfl
    · cases kind <;> rfl
  exact hword (h.eq_of_prefix hthree (hwp.trans hpre) ▸ hw)

/-- The search goes on over a command at which no stop begins. -/
theorem free_command_append {kind : FieldKind} {q r : Text} (hq : IsCommand q)
    (hno : ∀ p, Stop kind p → ¬ p <+: q ++ r) (hr : Free kind r) : Free kind (q ++ r) :=
  fun p hp hin => hr p hp ((hp.isCommand.infix_command_append_iff hq (hno p hp)).mp hin)

theorem Headed.free_append {kind : FieldKind} {word q r : Text} (h : Headed word q)
    (hword : word ∉ [fieldEnd, kind.dataCommand]) (hr : Free kind r) : Free kind (q ++ r) :=
  free_command_append h.isCommand (h.not_prefix hword) hr

/-- What begins with a command of another word begins with no lead. -/
theorem Headed.eq_nil_of_isLead {kind : FieldKind} {word q r lead : Text} (h : Headed word q)
    (hword : word ∉ [ean13, code128]) (hlead : IsLead kind lead) (hpre : lead <+: q ++ r) :
    lead = [] := by
  cases kind with
  | image => exact hlead
  | text => exact hlead
  | barcode =>
      obtain ⟨w, hw, hheaded⟩ := hlead.headed
      exact absurd (h.eq_of_prefix hheaded.three (hheaded.begins.trans hpre) ▸ hw) hword

/-! ## A rest that begins with a statement of the kind -/

theorem opener_not_mem_leads (kind : FieldKind) : kind.opener ∉ [ean13, code128] := by
  cases kind <;> decide

theorem opener_not_mem_stops (kind : FieldKind) :
    kind.opener ∉ [fieldEnd, kind.dataCommand] := by cases kind <;> decide

/-- A whole statement completes one that is still open before it. -/
theorem Valid.completes {s : Statement} (hs : s.Valid) (rest : Text) :
    Completes s.kind (s.text ++ rest) := by
  obtain ⟨lead, m, hmiddle, hlead, hfree⟩ := hs.middle
  refine ⟨s.front ++ s.middle, s.value, ?_, hs.value, rest, by simp [text_eq_front]⟩
  refine hs.headed_front.free_append (opener_not_mem_stops s.kind) ?_
  rw [hmiddle]
  rcases hlead.eq_nil_or_isCommand with rfl | ⟨hkind, _⟩
  · exact hfree
  · rw [hkind] at hlead hfree ⊢
    obtain ⟨word, hword, hheaded⟩ := hlead.headed
    refine hheaded.free_append ?_ hfree
    simp only [List.mem_cons, List.not_mem_nil, or_false] at hword
    rcases hword with rfl | rfl <;> decide

/-- **A rest that begins with a statement is replaceable by any that opens one of its kind.** -/
theorem Valid.replaceable {s : Statement} (hs : s.Valid) (rest new : Text) :
    Replaceable s.kind (s.text ++ rest) (s.kind.opener ++ new) := by
  refine replaceable_of_completes ?_ ((isCommand_opener s.kind).atCaret new) ?_
    (fun _ => hs.completes rest) ?_
  · rw [text_eq, List.append_assoc]
    exact (isCommand_opener s.kind).atCaret _
  · exact fun lead hlead hpre =>
      (headed_opener s.kind).eq_nil_of_isLead (opener_not_mem_leads s.kind) hlead hpre
  · intro hkind _
    refine (List.infix_append (s.front ++ (s.middle ++ (s.kind.dataCommand ++ s.value))) fieldEnd
      rest).trans ?_
    rw [text_eq_front, closer_eq hkind]
    simp

/-- A valid statement in place of another of its kind, in front of any rest. -/
theorem Valid.replace {s s' : Statement} (hs : s.Valid) (hs' : s'.Valid) (hkind : s'.kind = s.kind)
    (rest out : Text) :
    Replaceable s.kind (s.text ++ rest) (s'.text ++ out) ∧
      pieces (recognise s.kind) (s'.text ++ out) =
        .hit s' s'.text :: pieces (recognise s.kind) out := by
  refine ⟨?_, by rw [← hkind, hs'.pieces_append]⟩
  rw [s'.text_eq, hkind, List.append_assoc]
  exact hs.replaceable rest _

end LabelTemplate.Statement
