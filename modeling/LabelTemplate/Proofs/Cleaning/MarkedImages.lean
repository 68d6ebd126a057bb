import LabelTemplate.Proofs.Cleaning.Markers

/-!
# Images with hex markers

An image has no data command, but its middle may have some: whatever stands before the call of the
graphic is passed over. There markers are put in as everywhere else. They bring in no call and no
end of a statement, so the search passes over them too, and the call is found behind them, with the
name it had.
-/

namespace LabelTemplate.Cleaning

open Text Command Scan Statement

theorem headed_call {name : Text} (hname : ValidValue .image name) :
    Headed graphicCall (graphicCall ++ name ++ [',']) :=
  ((headed_self isCommand_graphicCall rfl).append (not_mem_of_isName hname.2)).append (by decide)

/-! ## Looking for the call -/

theorem calledName?_cons_addMarkers (seen : Text) (c : Char) (cs : Text) :
    calledName? (c :: addMarkers (c :: seen) cs) = calledName? (c :: cs) := by
  refine Option.ext fun name => ?_
  rw [calledName?_eq_some_iff, calledName?_eq_some_iff]
  exact and_congr_right fun hname => prefix_cons_addMarkers_iff (headed_call hname).isCommand _ _ _

/-- A call is found at the beginning or further on, if the statement does not end before. -/
theorem isSome_graphicCall?_cons (c : Char) (cs : Text) :
    (graphicCall? (c :: cs)).isSome =
      (!Command.fieldEnd.isPrefixOf (c :: cs) &&
        ((calledName? (c :: cs)).isSome || (graphicCall? cs).isSome)) := by
  rw [graphicCall?]
  cases Command.fieldEnd.isPrefixOf (c :: cs) with
  | true => rfl
  | false =>
      cases calledName? (c :: cs) with
      | some name => rfl
      | none => simp

theorem isSome_graphicCall?_hexMarker (t : Text) :
    (graphicCall? (hexMarker ++ t)).isSome = (graphicCall? t).isSome := by
  change (graphicCall? ('^' :: 'F' :: 'H' :: t)).isSome = _
  simp [isSome_graphicCall?_cons, List.isPrefixOf, Command.fieldEnd, calledName?, after?,
    graphicCall]

/-- **Where a call is found, one is found with markers put in, and the other way round.** -/
theorem isSome_graphicCall?_addMarkers (seen t : Text) :
    (graphicCall? (addMarkers seen t)).isSome = (graphicCall? t).isSome := by
  induction t generalizing seen with
  | nil => rfl
  | cons c cs ih =>
      have hend : Command.fieldEnd.isPrefixOf (c :: addMarkers (c :: seen) cs) =
          Command.fieldEnd.isPrefixOf (c :: cs) := by
        rw [Bool.eq_iff_iff, List.isPrefixOf_iff_prefix, List.isPrefixOf_iff_prefix,
          prefix_cons_addMarkers_iff isCommand_fieldEnd]
      have hbehind : (graphicCall? (c :: addMarkers (c :: seen) cs)).isSome =
          (graphicCall? (c :: cs)).isSome := by
        rw [isSome_graphicCall?_cons, isSome_graphicCall?_cons, hend, ih,
          calledName?_cons_addMarkers]
      rw [addMarkers_eq, missingMarker]
      split
      · split
        · exact hbehind
        · rw [isSome_graphicCall?_hexMarker]
          exact hbehind
      · exact hbehind

theorem isSome_match?_addMarkers (seen t : Text) :
    (match? .image (addMarkers seen t)).isSome = (match? .image t).isSome := by
  unfold match?
  rw [after?_addMarkers (headed_opener .image) (opener_not_mem .image)]
  cases after? FieldKind.image.opener t with
  | none => rfl
  | some behind =>
      simp only [Option.bind_eq_bind, Option.map_some, Option.bind_some, coordinates?_addMarkers]
      cases coordinates? behind with
      | none => rfl
      | some parts =>
          obtain ⟨x, y, rest⟩ := parts
          have hcall := isSome_graphicCall?_addMarkers
            ((x ++ ',' :: y).reverse ++ (FieldKind.image.opener.reverse ++ seen)) rest
          simp only [Option.map_some, Option.bind_some, middleAndValue?]
          generalize graphicCall? (addMarkers _ rest) = found' at hcall
          generalize graphicCall? rest = found at hcall
          cases found <;> cases found' <;> first | rfl | exact absurd hcall (by simp)

/-! ## Images -/

/-- The image with the markers that are missing in its middle, behind a text read backwards. -/
def markedImage (seen : Text) (s : Statement) : Statement :=
  { s with middle := addMarkers (s.front.reverse ++ seen) s.middle }

/-- An image gets its markers where it stands, and what follows it gets its own. -/
theorem addMarkers_image {s : Statement} (hs : s.Valid) (hkind : s.kind = .image)
    (seen rest : Text) :
    addMarkers seen (s.text ++ rest) =
      (markedImage seen s).text ++ addMarkers (s.text.reverse ++ seen) rest := by
  have hvalue : ValidValue .image s.value := hkind ▸ hs.value
  have hcall := headed_call hvalue
  have hfront : ∀ z, ¬ Command.fieldData <+: s.front ++ z := fun z hpre =>
    opener_not_mem s.kind (by simp [hs.headed_front.eq_of_prefix rfl hpre])
  have hname : ∀ z, ¬ Command.fieldData <+: graphicCall ++ s.value ++ [','] ++ z := fun z hpre =>
    absurd (hcall.eq_of_prefix rfl hpre) (by decide)
  have hsplit : ∀ (m : Text) (z : Text), ({ s with middle := m } : Statement).text ++ z =
      s.front ++ (m ++ (graphicCall ++ s.value ++ [','] ++ z)) := by
    intro m z
    rw [text_eq_front]
    simp [front, coordinates, hkind, FieldKind.dataCommand, FieldKind.closer]
  have htext : s.text ++ rest = s.front ++ (s.middle ++
      (graphicCall ++ s.value ++ [','] ++ rest)) := hsplit s.middle rest
  rw [htext, markedImage, hsplit, addMarkers_command hs.isCommand_front (hfront _),
    addMarkers_append (hcall.isCommand.atCaret rest), addMarkers_command hcall.isCommand (hname _)]
  have hreverse : s.text = s.front ++ (s.middle ++ (graphicCall ++ s.value ++ [','])) := by
    simpa using hsplit s.middle []
  rw [hreverse]
  simp

theorem markedImage_valid {s : Statement} (hs : s.Valid) (hkind : s.kind = .image) (seen : Text) :
    (markedImage seen s).Valid where
  x := hs.x
  y := hs.y
  boundary := by
    rw [markedImage, head?_addMarkers]
    exact hs.boundary
  middle := by
    have hmiddle := hs.middle
    rw [hkind, exists_lead_iff (by decide)] at hmiddle
    show ∃ lead rest, _ = lead ++ rest ∧ IsLead s.kind lead ∧ Free s.kind rest
    rw [hkind, exists_lead_iff (by decide)]
    intro p hp hin
    cases hp with
    | fieldData hno => exact hno rfl
    | fieldEnd =>
        exact hmiddle _ (.fieldEnd _)
          ((headed_infix_addMarkers_iff headed_fieldEnd (by decide) _ _).mp hin)
    | call hname =>
        exact hmiddle _ (.call hname)
          ((headed_infix_addMarkers_iff (headed_call hname) (by decide) _ _).mp hin)
  value := hs.value

/-- **The images with their missing markers are those of the document with markers.** -/
theorem forall₂_found_addMarkers_image (seen t : Text) :
    List.Forall₂ (fun s s' => ∃ seen, s' = markedImage seen s) (found (recognise .image) t)
      (found (recognise .image) (addMarkers seen t)) := by
  refine (exact_recognise .image).forall₂_found addMarkers_nil ?_ ?_ seen t
  · intro seen c cs h
    refine ⟨c :: seen, found_addMarkers_of_none ?_⟩
    rw [recognise_eq_none_iff, ← Option.not_isSome_iff_eq_none] at h ⊢
    rwa [isSome_match?_addMarkers]
  · intro seen t s n h
    obtain ⟨hkind, hs, ⟨rest, rfl⟩, rfl⟩ := recognise_eq_some_iff.mp h
    refine ⟨s.text.reverse ++ seen, markedImage seen s, ⟨seen, rfl⟩, ?_⟩
    rw [addMarkers_image hs hkind, ← length_text, List.drop_left, ← hkind]
    exact (markedImage_valid hs hkind seen).found_append _

end LabelTemplate.Cleaning
