import LabelTemplate.Normalization
import LabelTemplate.Proofs.Text.Lines
import LabelTemplate.Proofs.Text.Occurrence
import Mathlib.Data.List.Basic
import Mathlib.Data.List.TakeWhile

/-!
# Normal order is a partition of the lines

`Normalized` says what becomes of the lines of a text: the first line with the marker is the turning
point, and the lines behind it fall into those with the token and the others, each in their old
order. A text is joined from its lines and falls into the same ones again, whatever the marker and
the token are, since both are looked for within one line.

Nothing moves a second time: no line in front of the turning point is touched, so it is again the
first with the marker, and what is behind it is apart already. A line with the marker that is moved
makes no difference, it comes from behind the turning point and stays there.
-/

namespace LabelTemplate.Normalization

open Text

/-! ## Specification -/

/-- The lines of a text, and the same lines in normal order. -/
inductive Normalized (marker token : Text) : List Text → List Text → Prop
  /-- No line has the marker, and all stay where they are. -/
  | unmarked {ls : List Text} (hunmarked : ∀ l ∈ ls, ¬ marker <:+: l) :
    Normalized marker token ls ls
  /-- Behind the first line with the marker come the later ones with the token, then the others. -/
  | marked {before later : List Text} {turning : Text} (hbefore : ∀ l ∈ before, ¬ marker <:+: l)
    (hturning : marker <:+: turning) :
    Normalized marker token (before ++ turning :: later)
      (before ++ turning :: (later.filter (token <:+: ·) ++ later.filter (¬ token <:+: ·)))

variable {marker token : Text} {ls ms : List Text}

/-! ## The lines in normal order -/

theorem exists_normalized (marker token : Text) (ls : List Text) :
    ∃ ms, Normalized marker token ls ms := by
  cases hfirst : ls.find? (marker <:+: ·) with
  | none => exact ⟨ls, .unmarked (by simpa using hfirst)⟩
  | some turning =>
      obtain ⟨hturning, before, later, rfl, hbefore⟩ := List.find?_eq_some_iff_append.mp hfirst
      exact ⟨_, .marked (by simpa using hbefore) (by simpa using hturning)⟩

theorem normalizeLines_of_normalized (h : Normalized marker token ls ms) :
    normalizeLines marker token ls = ms := by
  have htoken : contains token = fun l => decide (token <:+: l) := funext (contains_eq_decide token)
  simp only [normalizeLines, contains_eq_decide marker, htoken]
  cases h with
  | unmarked hunmarked =>
      rw [List.dropWhile_eq_nil_iff.mpr (by simpa using hunmarked)]
  | @marked before later turning hbefore hturning =>
      have hall : ∀ l ∈ before, (!decide (marker <:+: l)) = true := by simpa using hbefore
      rw [List.dropWhile_append_of_pos hall, List.takeWhile_append_of_pos hall,
        List.dropWhile_cons_of_neg (by simpa using hturning),
        List.takeWhile_cons_of_neg (by simpa using hturning), List.append_nil]
      simp

theorem normalizeLines_eq_iff :
    normalizeLines marker token ls = ms ↔ Normalized marker token ls ms := by
  refine ⟨?_, normalizeLines_of_normalized⟩
  rintro rfl
  obtain ⟨ms, h⟩ := exists_normalized marker token ls
  rwa [normalizeLines_of_normalized h]

theorem Normalized.perm (h : Normalized marker token ls ms) : ms.Perm ls := by
  cases h with
  | unmarked => exact List.Perm.refl _
  | @marked before later turning _ _ =>
      refine List.Perm.append_left before (List.Perm.cons turning ?_)
      simpa using List.filter_append_perm (fun l => decide (token <:+: l)) later

/-- Lines in normal order are in normal order. -/
theorem Normalized.again (h : Normalized marker token ls ms) : Normalized marker token ms ms := by
  cases h with
  | unmarked hunmarked => exact .unmarked hunmarked
  | @marked before later turning hbefore hturning =>
      have hagain := @Normalized.marked marker token before
        (later.filter (token <:+: ·) ++ later.filter (¬ token <:+: ·)) turning hbefore hturning
      simpa [List.filter_filter] using hagain

/-! ## The text in normal order -/

theorem lines_normalizeBy (marker token t : Text) :
    lines (normalizeBy marker token t) = normalizeLines marker token (lines t) := by
  have hperm := (normalizeLines_eq_iff.mp (rfl : normalizeLines marker token (lines t) = _)).perm
  obtain ⟨l, ls, hlines⟩ := exists_splitOn_eq_cons '\n' t
  refine lines_unlines (fun hnil => ?_) fun l hl => not_mem_of_mem_splitOn (hperm.subset hl)
  rw [hnil, lines, hlines] at hperm
  exact absurd hperm.symm (List.not_perm_nil_cons _ _ ·.symm)

theorem normalizeBy_eq_iff {t u : Text} :
    normalizeBy marker token t = u ↔ Normalized marker token (lines t) (lines u) := by
  rw [← normalizeLines_eq_iff, ← lines_normalizeBy]
  refine ⟨congrArg lines, fun h => ?_⟩
  rw [← unlines_lines (normalizeBy marker token t), h, unlines_lines]

/--
**Normal order moves lines and nothing else, and it moves them once.**

The marker and the token may be any texts: empty ones occur in every line, ones with a line feed
in none, and a line that is moved may have the marker as well.
-/
theorem normalizeBy_is_stable_partition (marker token t : Text) :
    (∀ u, normalizeBy marker token t = u ↔ Normalized marker token (lines t) (lines u)) ∧
      (lines (normalizeBy marker token t)).Perm (lines t) ∧
      normalizeBy marker token (normalizeBy marker token t) = normalizeBy marker token t := by
  have h := normalizeBy_eq_iff.mp (rfl : normalizeBy marker token t = _)
  exact ⟨fun _ => normalizeBy_eq_iff, h.perm, normalizeBy_eq_iff.mpr h.again⟩

end LabelTemplate.Normalization
