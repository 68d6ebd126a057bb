import LabelTemplate.Proofs.Scan.Pieces
import Mathlib.Data.List.Forall2

/-!
# Scans and rewriting

What a scan finds, one place at a time; what becomes of a text in which matches are replaced; and
how the matches of a text and those of a rewritten text correspond. For the last, the
rewriting goes over the text from the left with a state, and all that has to be known of it is what
it does at one place (`Exact.forall₂_found`).
-/

namespace LabelTemplate.Scan

variable {α : Type} {recognise : Recogniser α}

/-! ## What is found -/

@[simp] theorem found_nil : found recognise [] = [] := rfl

theorem found_of_none {c : Char} {cs : Text} (h : recognise (c :: cs) = none) :
    found recognise (c :: cs) = found recognise cs := by
  have hsplit : pieces recognise (c :: cs) = [.plain c] ++ pieces recognise cs := pieces_of_none h
  rw [found_eq_append 0 hsplit]
  rfl

theorem found_of_some (hex : Exact recognise) {t : Text} {a : α} {n : Nat}
    (h : recognise t = some (a, n)) : found recognise t = a :: found recognise (t.drop n) := by
  obtain ⟨hpos, hle⟩ := hex _ _ _ h
  have hsplit : pieces recognise t = [.hit a (t.take n)] ++ pieces recognise (t.drop n) :=
    pieces_of_some h hpos hle
  rw [found_eq_append 0 hsplit]
  rfl

/-- Nothing is found in a stretch in which no match starts. -/
theorem found_append_of_none {w z : Text}
    (h : ∀ u, u ≠ [] → u <:+ w → recognise (u ++ z) = none) :
    found recognise (w ++ z) = found recognise z := by
  induction w with
  | nil => rfl
  | cons c w ih =>
      have hhere : recognise (c :: (w ++ z)) = none := h (c :: w) (by simp) (List.suffix_refl _)
      rw [List.cons_append, found_of_none hhere,
        ih fun u hu hsuffix => h u hu (hsuffix.trans (List.suffix_cons c w))]

theorem found_eq_nil {t : Text} (h : ∀ u, u ≠ [] → u <:+ t → recognise u = none) :
    found recognise t = [] := by
  have hwhole : found recognise (t ++ []) = found recognise [] :=
    found_append_of_none (by simpa using h)
  rwa [List.append_nil] at hwhole

/--
**The matches of a rewritten text correspond to those of the text.**

At a place without a match the scan of the rewritten text gets past what became of one character;
at a match it finds one that is related to it. The induction is along the scan of the text.
-/
theorem Exact.forall₂_found (hex : Exact recognise) {σ : Type} {rewrite : σ → Text → Text}
    {R : α → α → Prop} (hnil : ∀ s, rewrite s [] = [])
    (hplain : ∀ s c cs, recognise (c :: cs) = none →
      ∃ s', found recognise (rewrite s (c :: cs)) = found recognise (rewrite s' cs))
    (hhit : ∀ s t a n, recognise t = some (a, n) →
      ∃ s' b, R a b ∧ found recognise (rewrite s t) = b :: found recognise (rewrite s' (t.drop n)))
    (s : σ) (t : Text) :
    List.Forall₂ R (found recognise t) (found recognise (rewrite s t)) := by
  induction t using hex.induction generalizing s with
  | nil => rw [hnil]; exact List.Forall₂.nil
  | plain c cs h ih =>
      obtain ⟨s', hfound⟩ := hplain s c cs h
      rw [found_of_none h, hfound]
      exact ih s'
  | hit t a n h ih =>
      obtain ⟨s', b, hab, hfound⟩ := hhit s t a n h
      rw [found_of_some hex h, hfound]
      exact .cons hab (ih s')

/-! ## Replacing the matches -/

variable {replacement : α → Text}

@[simp] theorem replace_nil : replace recognise replacement [] = [] := rfl

theorem replace_of_none {c : Char} {cs : Text} (h : recognise (c :: cs) = none) :
    replace recognise replacement (c :: cs) = c :: replace recognise replacement cs := by
  rw [replace, pieces_of_none h]
  rfl

theorem replace_of_some (hex : Exact recognise) {t : Text} {a : α} {n : Nat}
    (h : recognise t = some (a, n)) :
    replace recognise replacement t =
      replacement a ++ replace recognise replacement (t.drop n) := by
  obtain ⟨hpos, hle⟩ := hex _ _ _ h
  rw [replace, pieces_of_some h hpos hle]
  rfl

/-- A stretch in which no match starts stays as it is. -/
theorem replace_append_of_none {w z : Text}
    (h : ∀ u, u ≠ [] → u <:+ w → recognise (u ++ z) = none) :
    replace recognise replacement (w ++ z) = w ++ replace recognise replacement z := by
  induction w with
  | nil => rfl
  | cons c w ih =>
      have hhere : recognise (c :: (w ++ z)) = none := h (c :: w) (by simp) (List.suffix_refl _)
      rw [List.cons_append, replace_of_none hhere,
        ih fun u hu hsuffix => h u hu (hsuffix.trans (List.suffix_cons c w)), List.cons_append]

/-- Where matches neither go over a place nor depend on what is behind it, a text can be cut. -/
theorem replace_append (hex : Exact recognise) {w z : Text}
    (h : ∀ u, u ≠ [] → u <:+ w → recognise (u ++ z) = recognise u) :
    replace recognise replacement (w ++ z) =
      replace recognise replacement w ++ replace recognise replacement z := by
  induction w using hex.induction with
  | nil => rfl
  | plain c cs hnone ih =>
      have hcut := h (c :: cs) (by simp) (List.suffix_refl _)
      rw [hnone, List.cons_append] at hcut
      rw [List.cons_append, replace_of_none hnone, replace_of_none hcut, List.cons_append,
        ih fun u hu hsuffix => h u hu (hsuffix.trans (List.suffix_cons c cs))]
  | hit t a n hsome ih =>
      obtain ⟨hpos, hle⟩ := hex _ _ _ hsome
      have hne : t ≠ [] := by
        rintro rfl
        exact absurd hpos (by simpa using hle)
      have hcut := h t hne (List.suffix_refl _)
      rw [hsome] at hcut
      rw [replace_of_some hex hsome, replace_of_some hex hcut, List.drop_append_of_le_length hle,
        ih fun u hu hsuffix => h u hu (hsuffix.trans (List.drop_suffix n t)), List.append_assoc]

/-- A text in which no match starts stays as it is. -/
theorem replace_eq_self {t : Text} (h : ∀ u, u ≠ [] → u <:+ t → recognise u = none) :
    replace recognise replacement t = t := by
  have hwhole : replace recognise replacement (t ++ []) = t ++ replace recognise replacement [] :=
    replace_append_of_none (by simpa using h)
  simpa using hwhole

/-! ## The scan for one fixed text -/

theorem literal_eq_none_iff {pattern t : Text} : literal pattern t = none ↔ ¬ pattern <+: t := by
  simp [literal]

theorem literal_append (pattern t : Text) :
    literal pattern (pattern ++ t) = some ((), pattern.length) := by simp [literal]

theorem exact_literal {pattern : Text} (h : pattern ≠ []) : Exact (literal pattern) := by
  intro t a n hlit
  unfold literal at hlit
  split at hlit
  · rename_i hpre
    obtain ⟨_, rfl⟩ := Prod.mk.inj (Option.some.inj hlit)
    exact ⟨List.length_pos_iff.mpr h, (List.isPrefixOf_iff_prefix.mp hpre).length_le⟩
  · exact absurd hlit (by simp)

end LabelTemplate.Scan

namespace LabelTemplate.Text

open Scan

variable {pattern replacement : Text}

@[simp] theorem replaceAll_nil : replaceAll pattern replacement [] = [] := rfl

theorem replaceAll_cons {c : Char} {cs : Text} (h : ¬ pattern <+: c :: cs) :
    replaceAll pattern replacement (c :: cs) = c :: replaceAll pattern replacement cs :=
  replace_of_none (literal_eq_none_iff.mpr h)

theorem replaceAll_pattern (h : pattern ≠ []) (t : Text) :
    replaceAll pattern replacement (pattern ++ t) =
      replacement ++ replaceAll pattern replacement t := by
  rw [replaceAll, replace_of_some (exact_literal h) (literal_append pattern t), List.drop_left]
  rfl

/-- Induction along the occurrences of a pattern. -/
@[elab_as_elim]
theorem induction_on_pattern (h : pattern ≠ []) {motive : Text → Prop} (nil : motive [])
    (plain : ∀ c cs, ¬ pattern <+: c :: cs → motive cs → motive (c :: cs))
    (occurrence : ∀ t, motive t → motive (pattern ++ t)) (t : Text) : motive t := by
  induction t using (exact_literal h).induction with
  | nil => exact nil
  | plain c cs hno ih => exact plain c cs (literal_eq_none_iff.mp hno) ih
  | hit t a n hlit ih =>
      have hpre : pattern <+: t := by
        by_contra hno
        rw [literal_eq_none_iff.mpr hno] at hlit
        exact absurd hlit (by simp)
      obtain ⟨u, rfl⟩ := hpre
      rw [literal_append] at hlit
      obtain ⟨_, rfl⟩ := Prod.mk.inj (Option.some.inj hlit)
      rw [List.drop_left] at ih
      exact occurrence u ih

/-- Where the pattern does not occur, nothing is replaced. -/
theorem replaceAll_eq_self {t : Text} (h : ¬ pattern <:+: t) :
    replaceAll pattern replacement t = t := by
  induction t with
  | nil => rfl
  | cons c cs ih =>
      rw [List.infix_cons_iff, not_or] at h
      rw [replaceAll_cons h.1, ih h.2]

end LabelTemplate.Text
