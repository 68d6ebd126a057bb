import LabelTemplate.Proofs.Cleaning.Bare
import LabelTemplate.Proofs.Cleaning.MarkerPlaces
import LabelTemplate.Proofs.Cleaning.PrintedDigits

/-!
# Steps that settle in one go

Putting markers in, taking definitions out and having digits printed leave nothing for themselves to
do. Each of the three is said by what it changes and by what its result is free of
(`steps_settle`). Here is what is still missing for the definitions: of the commands that start and
end formats, none is taken out and none comes up (`formatCommands_stripDefinitions`).

The two other steps make a text shorter in its middle, and what was apart comes together. They do
not settle.
-/

namespace LabelTemplate.Cleaning

open Text Command Scan Statement

/-- The format starts and format ends of a text, in order. -/
def formatCommands : Text → List Text
  | [] => []
  | c :: cs =>
    if formatStart.isPrefixOf (c :: cs) then formatStart :: formatCommands cs
    else if formatEnd.isPrefixOf (c :: cs) then formatEnd :: formatCommands cs
    else formatCommands cs

theorem formatCommands_cons {c : Char} {cs : Text} (h : atFormatCommand (c :: cs) = false) :
    formatCommands (c :: cs) = formatCommands cs := by
  rw [atFormatCommand, Bool.or_eq_false_iff] at h
  rw [formatCommands, if_neg (by simp [h.1]), if_neg (by simp [h.2])]

theorem FormatFree.formatCommands_append {w r : Text} (h : FormatFree w) (hr : AtCaret r) :
    formatCommands (w ++ r) = formatCommands r := by
  induction w with
  | nil => rfl
  | cons c w ih =>
      have hhere : atFormatCommand (c :: w ++ r) = false :=
        h.not_atFormatCommand (by simp) (List.suffix_refl _) hr
      rw [List.cons_append] at hhere ⊢
      rw [formatCommands_cons hhere, ih (h.of_infix (List.suffix_cons c w).isInfix)]

theorem formatCommands_formatStart (r : Text) :
    formatCommands (formatStart ++ r) = formatStart :: formatCommands r := by
  simp [formatCommands, formatStart, formatEnd]

/-- **Formats start and end as before.** -/
theorem formatCommands_stripDefinitions (t : Text) :
    formatCommands (stripDefinitions t) = formatCommands t := by
  induction t using induction_on_definitions with
  | nil => rfl
  | plain c cs h ih =>
      rw [stripDefinitions_cons h]
      simp only [formatCommands, List.isPrefixOf_iff_prefix, formatStart_prefix_cons_iff,
        formatEnd_prefix_cons_iff, ih]
  | block data rest hfree ih =>
      have hfree' : FormatFree (storeGraphic ++ data) :=
        (formatFree_append_iff (by decide) data).mpr hfree
      rw [stripDefinitions_block hfree, formatCommands_formatStart, ih, ← List.append_assoc,
        hfree'.formatCommands_append (isCommand_formatStart.atCaret rest),
        formatCommands_formatStart]

/-- Between definitions and a format start behind them a format ends. -/
theorem Bare.formatEnd_infix {t before between after : Text} (h : Bare t)
    (ht : t = before ++ (storeGraphic ++ (between ++ (formatStart ++ after)))) :
    formatEnd <:+: between := by
  by_contra hend
  have hclosed := h (between ++ (formatStart ++ after)) ⟨before, ht.symm⟩
  refine Bool.eq_false_iff.mp hclosed (opensFormat_iff.mpr ?_)
  by_cases hstart : formatStart <:+: between
  · -- then an earlier format start comes first
    obtain ⟨data, rest, rfl, hfirst⟩ :=
      exists_first_of_infix isCommand_formatStart.ne_nil hstart
    refine ⟨data, rest ++ (formatStart ++ after), by simp only [List.append_assoc], hfirst, ?_⟩
    exact fun hin => hend (hin.trans (List.prefix_append data _).isInfix)
  · exact ⟨between, after, rfl, hstart, hend⟩

/--
**Three steps do what they are for in one go.**

* Markers are put in where a data command misses one and nowhere else, and none is missing
  afterwards.
* Taking definitions out leaves the format starts and format ends as they are, and behind
  definitions that stay a format ends before one starts.
* Having digits printed changes the flags of the commands that hide theirs, from N to Y, and no
  other character. No such command is left.

Each step changes nothing in its own result.
-/
theorem steps_settle (t : Text) :
    (ensureHexMarkers t = (t.zipIdx.flatMap fun (c, i) =>
        (if MissesMarker (t.take i) (t.drop i) then hexMarker else []) ++ [c]) ∧
      (∀ before behind, ensureHexMarkers t = before ++ behind → ¬ MissesMarker before behind) ∧
      ensureHexMarkers (ensureHexMarkers t) = ensureHexMarkers t) ∧
    (formatCommands (stripDefinitions t) = formatCommands t ∧
      (∀ before between after,
        stripDefinitions t = before ++ (storeGraphic ++ (between ++ (formatStart ++ after))) →
          formatEnd <:+: between) ∧
      stripDefinitions (stripDefinitions t) = stripDefinitions t) ∧
    ((forceInterpretationLine t).length = t.length ∧
      List.Forall₂ SameOrPrinted t (forceInterpretationLine t) ∧
      (∀ before c behind, t = before ++ c :: behind →
        (AtHidingFlag before (c :: behind) →
          (forceInterpretationLine t)[before.length]? = some 'Y') ∧
        (¬ AtHidingFlag before (c :: behind) →
          (forceInterpretationLine t)[before.length]? = some c)) ∧
      (∀ front back, AroundFlag front back →
        ¬ front ++ 'N' :: back <:+: forceInterpretationLine t) ∧
      forceInterpretationLine (forceInterpretationLine t) = forceInterpretationLine t) := by
  have hbare := bare_stripDefinitions t
  refine ⟨⟨?markers, ?missing, ?again⟩, ⟨?formats, ?closed, ?again'⟩,
    ⟨?length, ?printed, ?flags, ?hidden, ?again''⟩⟩
  case markers => exact ensureHexMarkers_eq_flatMap t
  case missing => exact fun before behind h => not_missesMarker_ensureHexMarkers h
  case again => exact ensureHexMarkers_ensureHexMarkers t
  case formats => exact formatCommands_stripDefinitions t
  case closed => exact fun before between after h => hbare.formatEnd_infix h
  case again' => exact hbare.stripDefinitions_eq
  case length => exact length_forceInterpretationLine t
  case printed => exact forall₂_sameOrPrinted t
  case flags => exact fun before c behind h => getElem?_forceInterpretationLine h
  case hidden => exact fun front back h => not_infix_forceInterpretationLine h t
  case again'' => exact forceInterpretationLine_forceInterpretationLine t

end LabelTemplate.Cleaning
