import LabelTemplate.Proofs.Cleaning.MarkedImages
import LabelTemplate.Proofs.Cleaning.PrintedDigits
import LabelTemplate.Proofs.Extraction.Correspondence

/-!
# Statements with printed digits

To print the digits of a bar code an N is changed to a Y, and this can happen anywhere in a
document. The recogniser does not tell the two letters apart: it asks for commands that have
neither, for commas and carets, and for classes of characters that have both. So it recognises the
same in a text and in the text with every N made a Y (`match?_map_blur`), and as the change makes no
difference to the latter, a statement is found exactly where one was.
-/

namespace LabelTemplate.Cleaning

open Text Command Scan Statement

/-! ## Letters that are not told apart -/

/-- The character, with N and Y not told apart. -/
def blur (c : Char) : Char := if c = 'N' then 'Y' else c

theorem blur_eq_iff {c d : Char} (hd : 'N' ≠ d ∧ 'Y' ≠ d) : blur c = d ↔ c = d := by
  unfold blur
  split
  · rename_i hc
    exact iff_of_false hd.2 (hc ▸ hd.1)
  · rfl

theorem apply_blur {α : Type} {p : Char → α} (hp : p 'Y' = p 'N') (c : Char) :
    p (blur c) = p c := by
  unfold blur
  split
  · rename_i hc
    rw [hc, hp]
  · rfl

theorem isPrefixOf_map_blur {p : Text} (hp : 'N' ∉ p ∧ 'Y' ∉ p) (t : Text) :
    p.isPrefixOf (t.map blur) = p.isPrefixOf t := by
  induction p generalizing t with
  | nil => cases t <;> rfl
  | cons d p ih =>
      rw [List.mem_cons, List.mem_cons, not_or, not_or] at hp
      cases t with
      | nil => rfl
      | cons c t =>
          rw [List.map_cons, List.isPrefixOf_cons_cons, List.isPrefixOf_cons_cons,
            ih ⟨hp.1.2, hp.2.2⟩]
          congr 1
          rw [Bool.eq_iff_iff, beq_iff_eq, beq_iff_eq, eq_comm, blur_eq_iff ⟨hp.1.1, hp.2.1⟩,
            eq_comm]

theorem after?_map_blur {p : Text} (hp : 'N' ∉ p ∧ 'Y' ∉ p) (t : Text) :
    after? p (t.map blur) = (after? p t).map (List.map blur) := by
  unfold after?
  rw [isPrefixOf_map_blur hp]
  split
  · rw [← List.map_drop]
    rfl
  · rfl

theorem takeWhile_map_blur {p : Char → Bool} (hp : p 'Y' = p 'N') (t : Text) :
    (t.map blur).takeWhile p = (t.takeWhile p).map blur := by
  rw [List.takeWhile_map]
  simp only [Function.comp_def, apply_blur hp]

theorem dropWhile_map_blur {p : Char → Bool} (hp : p 'Y' = p 'N') (t : Text) :
    (t.map blur).dropWhile p = (t.dropWhile p).map blur := by
  rw [List.dropWhile_map]
  simp only [Function.comp_def, apply_blur hp]

theorem cut?_map_blur {p : Text} (hp : 'N' ∉ p ∧ 'Y' ∉ p) (t : Text) :
    cut? p (t.map blur) =
      (cut? p t).map fun (before, after) => (before.map blur, after.map blur) := by
  induction t with
  | nil => rw [List.map_nil, cut?]; split <;> rfl
  | cons c cs ih =>
      have hprefix := isPrefixOf_map_blur hp (c :: cs)
      rw [List.map_cons] at hprefix
      rw [List.map_cons, cut?, cut?, hprefix, ih, ← List.map_cons (f := blur)]
      split
      · rw [← List.map_drop]
        rfl
      · simp [Option.map_map, Function.comp_def]

theorem splitBefore_map_blur {p : Text → Bool} (hp : ∀ t : Text, p (t.map blur) = p t) (t : Text) :
    splitBefore p (t.map blur) =
      ((splitBefore p t).1.map blur, (splitBefore p t).2.map blur) := by
  induction t with
  | nil => rfl
  | cons c cs ih =>
      have hhere := hp (c :: cs)
      rw [List.map_cons] at hhere
      rw [List.map_cons, splitBefore, splitBefore, hhere, ih]
      split <;> rfl

/-! ## The recogniser, part by part -/

theorem coordinates?_map_blur (t : Text) :
    coordinates? (t.map blur) = (coordinates? t).map fun (x, y, rest) =>
      (x.map blur, y.map blur, rest.map blur) := by
  have hclass : isCoordinate 'Y' = isCoordinate 'N' := by decide
  unfold coordinates?
  rw [dropWhile_map_blur hclass, takeWhile_map_blur hclass]
  cases t.dropWhile isCoordinate with
  | nil => rfl
  | cons c cs =>
      by_cases hc : c = ','
      · subst hc
        have hcomma : blur ',' = ',' := by decide
        simp only [List.map_cons, hcomma, takeWhile_map_blur hclass, dropWhile_map_blur hclass,
          Option.map_some]
      · have hblur : blur c ≠ ',' := (blur_eq_iff (by decide)).not.mpr hc
        simp [hc, hblur]

theorem payload?_map_blur (t : Text) :
    payload? (t.map blur) =
      (payload? t).map fun (middle, value) => (middle.map blur, value.map blur) := by
  have hstop : ∀ t : Text, atDataOrEnd (t.map blur) = atDataOrEnd t := fun t => by
    rw [atDataOrEnd, atDataOrEnd, isPrefixOf_map_blur (by decide),
      isPrefixOf_map_blur (by decide)]
  unfold payload?
  rw [splitBefore_map_blur hstop]
  obtain ⟨middle, rest⟩ := splitBefore atDataOrEnd t
  simp only [after?_map_blur (p := Command.fieldData) (by decide)]
  cases after? Command.fieldData rest with
  | none => rfl
  | some behind =>
      simp only [Option.map_some, Option.bind_eq_bind, Option.bind_some,
        cut?_map_blur (p := Command.fieldEnd) (by decide)]
      cases cut? Command.fieldEnd behind <;> rfl

theorem calledName?_map_blur (t : Text) :
    calledName? (t.map blur) = (calledName? t).map (List.map blur) := by
  have hclass : isName 'Y' = isName 'N' := by decide
  unfold calledName?
  rw [after?_map_blur (by decide)]
  cases after? graphicCall t with
  | none => rfl
  | some behind =>
      simp only [Option.map_some, takeWhile_map_blur hclass, dropWhile_map_blur hclass]
      cases behind.takeWhile isName with
      | nil => rfl
      | cons c name =>
          cases behind.dropWhile isName with
          | nil => rfl
          | cons d rest =>
              by_cases hd : d = ','
              · subst hd
                rfl
              · have hblur : blur d ≠ ',' := (blur_eq_iff (by decide)).not.mpr hd
                simp [hd, hblur]

theorem graphicCall?_map_blur (t : Text) :
    graphicCall? (t.map blur) =
      (graphicCall? t).map fun (middle, value) => (middle.map blur, value.map blur) := by
  induction t with
  | nil => rfl
  | cons c cs ih =>
      have hend := isPrefixOf_map_blur (p := Command.fieldEnd) (by decide) (c :: cs)
      have hcall := calledName?_map_blur (c :: cs)
      rw [List.map_cons] at hend hcall
      rw [List.map_cons, graphicCall?, graphicCall?, hend, hcall, ih]
      split
      · rfl
      · cases calledName? (c :: cs) with
        | some name => rfl
        | none => simp [Option.map_map, Function.comp_def]

theorem barcodeCommand?_map_blur (t : Text) :
    barcodeCommand? (t.map blur) = (barcodeCommand? t).map (List.map blur) := by
  have horientation : ∀ c : Char, (blur c).isUpper = c.isUpper := apply_blur (by decide)
  unfold barcodeCommand?
  rw [after?_map_blur (by decide), after?_map_blur (by decide), ← Option.map_or]
  cases (after? ean13 t).or (after? code128 t) with
  | none => rfl
  | some behind =>
      simp only [Option.map_some, Option.bind_eq_bind, Option.bind_some]
      cases behind with
      | nil => rfl
      | cons orientation rest =>
          cases rest with
          | nil => rfl
          | cons d rest =>
              by_cases hd : d = ','
              · subst hd
                have hcomma : blur ',' = ',' := by decide
                simp only [List.map_cons, hcomma, horientation, ← List.map_take]
                split <;> rfl
              · have hblur : blur d ≠ ',' := (blur_eq_iff (by decide)).not.mpr hd
                simp [hd, hblur]

theorem middleAndValue?_map_blur (kind : FieldKind) (t : Text) :
    middleAndValue? kind (t.map blur) =
      (middleAndValue? kind t).map fun (middle, value) => (middle.map blur, value.map blur) := by
  cases kind with
  | image => exact graphicCall?_map_blur t
  | text => exact payload?_map_blur t
  | barcode =>
      simp only [middleAndValue?, barcodeCommand?_map_blur]
      cases barcodeCommand? t with
      | none => rfl
      | some lead =>
          simp only [Option.map_some, Option.bind_eq_bind, Option.bind_some, List.length_map,
            ← List.map_drop, payload?_map_blur]
          cases payload? (t.drop lead.length) with
          | none => rfl
          | some found => simp

/-- The statement, with N and Y not told apart. -/
def blurred (s : Statement) : Statement :=
  { s with
    x := s.x.map blur
    y := s.y.map blur
    middle := s.middle.map blur
    value := s.value.map blur }

/-- **The recogniser does not tell N and Y apart.** -/
theorem match?_map_blur (kind : FieldKind) (t : Text) :
    match? kind (t.map blur) = (match? kind t).map blurred := by
  have hopener : 'N' ∉ kind.opener ∧ 'Y' ∉ kind.opener := by cases kind <;> decide
  unfold match?
  rw [after?_map_blur hopener]
  cases after? kind.opener t with
  | none => rfl
  | some behind =>
      simp only [Option.bind_eq_bind, Option.map_some, Option.bind_some, coordinates?_map_blur]
      cases coordinates? behind with
      | none => rfl
      | some parts =>
          simp only [Option.map_some, Option.bind_some, middleAndValue?_map_blur]
          cases middleAndValue? kind parts.2.2 <;> rfl

/-! ## The digits of a statement -/

@[simp] theorem forceInterpretationLine_nil : forceInterpretationLine [] = [] := rfl

theorem map_blur_forceInterpretationLine (t : Text) :
    (forceInterpretationLine t).map blur = t.map blur := by
  refine map_eq_map_of_forall₂ ?_ |>.symm
  refine (forall₂_sameOrPrinted t).imp fun c c' h => ?_
  rcases h with rfl | ⟨rfl, rfl⟩ <;> rfl

theorem isSome_match?_forceInterpretationLine (kind : FieldKind) (t : Text) :
    (match? kind (forceInterpretationLine t)).isSome = (match? kind t).isSome := by
  have hblur := match?_map_blur kind (forceInterpretationLine t)
  rw [map_blur_forceInterpretationLine, match?_map_blur] at hblur
  simpa using congrArg Option.isSome hblur.symm

/-- Characters that are no caret stay as they are. -/
theorem forceInterpretationLine_append_of_not_mem {w : Text} (hw : '^' ∉ w) (z : Text) :
    forceInterpretationLine (w ++ z) = w ++ forceInterpretationLine z := by
  refine replace_append_of_none fun u hu hsuffix => hiddenDigits_eq_none_iff.mpr ?_
  intro front back hflag hpre
  obtain ⟨name, hname, -⟩ := hflag.isCommand
  obtain ⟨c, u, rfl⟩ := List.exists_cons_of_ne_nil hu
  rw [hname, List.cons_append, List.cons_prefix_cons] at hpre
  exact hw (hsuffix.subset (hpre.1 ▸ List.mem_cons_self))

/-- A command of another word stays as it is. -/
theorem forceInterpretationLine_command {word p : Text} (h : Headed word p) (hword : word ≠ ean13)
    (z : Text) : forceInterpretationLine (p ++ z) = p ++ forceInterpretationLine z := by
  have hno : ∀ front back, AroundFlag front back → ¬ front ++ 'N' :: back <+: p ++ z := by
    rintro front back ⟨_, _, _⟩ hpre
    refine hword (h.eq_of_prefix rfl (List.IsPrefix.trans ?_ hpre)).symm
    simp [List.append_assoc]
  obtain ⟨name, rfl, hname⟩ := h.isCommand
  rw [List.cons_append] at hno ⊢
  rw [forceInterpretationLine_cons hno, forceInterpretationLine_append_of_not_mem hname]
  rfl

/-- In front of a caret a text becomes what it would become by itself. -/
theorem forceInterpretationLine_append {z : Text} (hz : AtCaret z) (w : Text) :
    forceInterpretationLine (w ++ z) = forceInterpretationLine w ++ forceInterpretationLine z := by
  refine replace_append exact_hiddenDigits fun u hu _ => Option.ext fun ⟨⟨front, back⟩, n⟩ => ?_
  rw [hiddenDigits_eq_some_iff, hiddenDigits_eq_some_iff]
  refine and_congr_right fun hflag => and_congr_right fun _ => ?_
  exact hflag.isCommand.prefix_append_iff hu hz

/-- Without an EAN-13 command there is nothing to change. -/
theorem forceInterpretationLine_eq_self {t : Text} (h : ¬ ean13 <:+: t) :
    forceInterpretationLine t = t := by
  refine replace_eq_self fun u _ hsuffix => hiddenDigits_eq_none_iff.mpr ?_
  rintro front back ⟨_, _, _⟩ hpre
  refine h (List.IsInfix.trans ?_ (hpre.isInfix.trans hsuffix.isInfix))
  exact List.IsPrefix.isInfix (by simp [List.append_assoc])

/-- The statement with the digits of the bar codes printed that its middle and value have. -/
def digitsPrinted (s : Statement) : Statement :=
  { s with
    middle := forceInterpretationLine s.middle
    value := forceInterpretationLine s.value }

theorem opener_ne_ean13 (kind : FieldKind) : kind.opener ≠ ean13 := by
  cases kind <;> decide

/-- A statement has its digits printed where it stands, and what follows it has its own. -/
theorem forceInterpretationLine_text {s : Statement} (hs : s.Valid) (rest : Text) :
    forceInterpretationLine (s.text ++ rest) =
      (digitsPrinted s).text ++ forceInterpretationLine rest := by
  have hdata : s.kind.dataCommand ≠ ean13 := by cases s.kind <;> decide
  have hbehind : forceInterpretationLine (s.value ++ (s.kind.closer ++ rest)) =
      forceInterpretationLine s.value ++ (s.kind.closer ++ forceInterpretationLine rest) := by
    by_cases hkind : s.kind = .image
    · -- the name of a graphic and the comma have no caret
      have hname : '^' ∉ s.value := not_mem_of_isName (hkind ▸ hs.value : ValidValue .image _).2
      have hcloser : '^' ∉ s.kind.closer := by rw [hkind]; decide
      have hvalue := forceInterpretationLine_append_of_not_mem hname []
      rw [forceInterpretationLine_append_of_not_mem hname,
        forceInterpretationLine_append_of_not_mem hcloser]
      simpa using hvalue.symm
    · rw [closer_eq hkind, forceInterpretationLine_append (isCommand_fieldEnd.atCaret rest),
        forceInterpretationLine_command headed_fieldEnd (by decide)]
  rw [text_eq_front, text_eq_front]
  simp only [List.append_assoc]
  rw [forceInterpretationLine_command hs.headed_front (opener_ne_ean13 s.kind),
    forceInterpretationLine_append ((isCommand_dataCommand s.kind).atCaret _),
    forceInterpretationLine_command (headed_dataCommand s.kind) hdata, hbehind]
  rfl

/-- Statements of one kind with parts of the same lengths are the same if one begins the other. -/
theorem eq_of_text_prefix {s s' : Statement} (hkind : s.kind = s'.kind)
    (hx : s.x.length = s'.x.length) (hy : s.y.length = s'.y.length)
    (hmiddle : s.middle.length = s'.middle.length) (hvalue : s.value.length = s'.value.length)
    (h : s.text <+: s'.text) : s = s' := by
  obtain ⟨kind, x, y, middle, value⟩ := s
  obtain ⟨kind', x', y', middle', value'⟩ := s'
  obtain rfl : kind = kind' := hkind
  obtain ⟨rest, heq⟩ := h
  simp only [text_eq, List.append_assoc, List.cons_append, List.append_cancel_left_eq] at heq
  obtain ⟨rfl, hbehind⟩ := List.append_inj heq hx
  obtain ⟨rfl, hbehind'⟩ := List.append_inj (List.cons.inj hbehind).2 hy
  obtain ⟨rfl, hdata⟩ := List.append_inj hbehind' hmiddle
  obtain ⟨rfl, -⟩ := List.append_inj (List.append_cancel_left hdata) hvalue
  rfl

theorem digitsPrinted_valid {s : Statement} (hs : s.Valid) : (digitsPrinted s).Valid := by
  have hmatch : match? s.kind s.text = some s :=
    match?_eq_some_iff.mpr ⟨rfl, hs, List.prefix_refl _⟩
  have htext : forceInterpretationLine s.text = (digitsPrinted s).text := by
    simpa using forceInterpretationLine_text hs []
  -- some statement is found there, and it has parts of the same lengths
  have hblur := match?_map_blur s.kind (forceInterpretationLine s.text)
  rw [map_blur_forceInterpretationLine, match?_map_blur, hmatch, htext, Option.map_some] at hblur
  obtain ⟨s', hs', hsame⟩ := Option.map_eq_some_iff.mp hblur.symm
  obtain ⟨hkind, hvalid, hprefix⟩ := match?_eq_some_iff.mp hs'
  have hlengths := fun part : Statement → Text => congrArg (fun s => (part s).length) hsame
  have hpart : ∀ t : Text, (t.map blur).length = t.length := fun _ => List.length_map _
  have hx := hlengths Statement.x
  have hy := hlengths Statement.y
  have hmiddle := hlengths Statement.middle
  have hvalue := hlengths Statement.value
  simp only [blurred, hpart] at hx hy hmiddle hvalue
  have heq : s' = digitsPrinted s := eq_of_text_prefix hkind hx hy
    (by rw [hmiddle, digitsPrinted, length_forceInterpretationLine])
    (by rw [hvalue, digitsPrinted, length_forceInterpretationLine]) hprefix
  exact heq ▸ hvalid

theorem AroundFlag.headed {front back : Text} (h : AroundFlag front back) :
    Headed ean13 front ∧ '^' ∉ back := by
  obtain ⟨name, hname, hcaret⟩ := h.isCommand
  obtain ⟨c, front', rfl⟩ := List.exists_cons_of_ne_nil h.front_ne_nil
  obtain ⟨rfl, rfl⟩ := List.cons.inj hname
  rw [List.append_eq, List.mem_append, List.mem_cons, not_or, not_or] at hcaret
  refine ⟨⟨⟨front', rfl, hcaret.1⟩, ?_, rfl⟩, hcaret.2.2⟩
  generalize hfront : '^' :: front' = front at h
  cases h
  simp [List.append_assoc]

/-- **The statements with their digits printed are those of the document with printed digits.** -/
theorem forall₂_found_forceInterpretationLine (kind : FieldKind) (t : Text) :
    List.Forall₂ (fun s s' => s' = digitsPrinted s) (found (recognise kind) t)
      (found (recognise kind) (forceInterpretationLine t)) := by
  refine @Exact.forall₂_found _ _ (exact_recognise kind) Unit (fun _ => forceInterpretationLine) _
    (fun _ => rfl) ?_ ?_ () t
  · intro _ c cs h
    refine ⟨(), ?_⟩
    by_cases hhidden : ∃ front back, AroundFlag front back ∧ front ++ 'N' :: back <+: c :: cs
    · -- the whole command is passed over, on both sides
      obtain ⟨front, back, hflag, rest, hrest⟩ := hhidden
      obtain ⟨hfront, hback⟩ := hflag.headed
      have hprinted : Headed ean13 (front ++ 'Y' :: back) := hfront.append (by simp [hback])
      rw [← hrest, forceInterpretationLine_hidden hflag,
        found_command_append hprinted (opener_ne_ean13 kind).symm]
      obtain ⟨name, hname, hcaret⟩ := hflag.isCommand
      rw [hname] at hrest
      obtain ⟨-, rfl⟩ := List.cons.inj hrest
      rw [List.append_eq, forceInterpretationLine_append_of_not_mem hcaret,
        found_append_of_not_mem hcaret]
    · push Not at hhidden
      rw [forceInterpretationLine_cons hhidden]
      refine found_of_none ?_
      rw [recognise_eq_none_iff, ← Option.not_isSome_iff_eq_none] at h ⊢
      rwa [← forceInterpretationLine_cons hhidden, isSome_match?_forceInterpretationLine]
  · intro _ t s n h
    obtain ⟨rfl, hs, ⟨rest, rfl⟩, rfl⟩ := recognise_eq_some_iff.mp h
    refine ⟨(), digitsPrinted s, rfl, ?_⟩
    rw [forceInterpretationLine_text hs, ← length_text, List.drop_left]
    exact (digitsPrinted_valid hs).found_append _

end LabelTemplate.Cleaning
