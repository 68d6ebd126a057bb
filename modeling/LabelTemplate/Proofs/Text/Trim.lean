import LabelTemplate.Text.Blank
import Mathlib.Data.List.DropRight

/-!
# Blanks at the ends of a text

Trimming an end takes blanks off and nothing else, and it stops at the first character from there
that is no blank. So whatever ends in such a character is still there when the end was trimmed.
-/

namespace LabelTemplate.Text

theorem trimEnd_isPrefix (t : Text) : trimEnd t <+: t := List.rdropWhile_prefix isBlank t

/-- Trimming does not get past a character that is no blank. -/
theorem trimEnd_append_cons {d : Char} (hd : isBlank d = false) (t u : Text) :
    trimEnd (t ++ d :: u) = t ++ d :: trimEnd u := by
  have hstop : (d :: t.reverse).dropWhile isBlank = d :: t.reverse :=
    List.dropWhile_cons_of_neg (by simp [hd])
  have hdrop : (u.reverse ++ d :: t.reverse).dropWhile isBlank =
      u.reverse.dropWhile isBlank ++ d :: t.reverse := by
    rw [List.dropWhile_append, hstop]
    split
    · rename_i hnil
      rw [List.isEmpty_iff.mp hnil, List.nil_append]
    · rfl
  have hreverse : (t ++ d :: u).reverse = u.reverse ++ d :: t.reverse := by simp
  rw [trimEnd, trimEndWhere, hreverse, hdrop]
  simp [trimEnd, trimEndWhere]

/-- What ends in a character that is no blank is not touched by trimming. -/
theorem infix_trimEnd {p t : Text} {d : Char} (hd : isBlank d = false) (h : p ++ [d] <:+: t) :
    p ++ [d] <:+: trimEnd t := by
  obtain ⟨a, b, rfl⟩ := h
  have hsplit : a ++ (p ++ [d]) ++ b = (a ++ p) ++ d :: b := by simp
  rw [hsplit, trimEnd_append_cons hd]
  exact ⟨a, trimEnd b, by simp⟩

theorem trimEnd_cons {d : Char} (hd : isBlank d = false) (t : Text) :
    trimEnd (d :: t) = d :: trimEnd t := trimEnd_append_cons hd [] t

/-- Where a text begins with a character that is no blank, only its end is trimmed. -/
theorem trim_cons {d : Char} (hd : isBlank d = false) (t : Text) :
    trim (d :: t) = trimEnd (d :: t) := by
  rw [trim, trimWhere, List.dropWhile_cons_of_neg (by simp [hd])]
  rfl

theorem trim_isInfix (t : Text) : trim t <:+: t :=
  (trimEnd_isPrefix (trimStart t)).isInfix.trans (List.dropWhile_suffix isBlank).isInfix

/-- Nothing but blanks is passed over at the start. -/
theorem exists_append_trimStart (t : Text) :
    ∃ gap, t = gap ++ trimStart t ∧ ∀ c ∈ gap, isBlank c = true :=
  ⟨t.takeWhile isBlank, List.takeWhile_append_dropWhile.symm,
    List.all_eq_true.mp List.all_takeWhile⟩

theorem trimStart_append {gap t : Text} (hgap : ∀ c ∈ gap, isBlank c = true)
    (ht : ∀ c ∈ t.head?, isBlank c = false) : trimStart (gap ++ t) = t := by
  rw [trimStart, List.dropWhile_append_of_pos hgap]
  cases t with
  | nil => rfl
  | cons c t => rw [List.dropWhile_cons_of_neg (by simp [ht c rfl])]

/-- What is left when the end is trimmed: blanks were behind it, and its last character is none. -/
theorem trimEnd_eq_iff {t u : Text} :
    trimEnd t = u ↔
      ∃ gap, t = u ++ gap ∧ (∀ c ∈ gap, isBlank c = true) ∧
        ∀ c ∈ u.getLast?, isBlank c = false := by
  have htrim : trimEnd t = (trimStart t.reverse).reverse := rfl
  constructor
  · rintro rfl
    obtain ⟨gap, heq, hgap⟩ := exists_append_trimStart t.reverse
    refine ⟨gap.reverse, ?_, by simpa using hgap, fun c hc => ?_⟩
    · rw [htrim, ← List.reverse_append, ← heq, List.reverse_reverse]
    · have hhead := List.head?_dropWhile_not isBlank t.reverse
      rw [htrim, List.getLast?_reverse, trimStart] at hc
      rw [hc] at hhead
      simpa using hhead
  · rintro ⟨gap, rfl, hgap, hlast⟩
    rw [htrim, List.reverse_append, trimStart_append (by simpa using hgap)
      (by simpa using hlast), List.reverse_reverse]

end LabelTemplate.Text
