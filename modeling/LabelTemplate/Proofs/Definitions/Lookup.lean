import LabelTemplate.Definitions
import LabelTemplate.Proofs.Cleaning.Bare

/-!
# Looking a definition up

The beginning of a definition is compared without regard to letter case, so what is found may be
written in another case than what was looked for. It is as long, though, and it has the comma at the
same place, since a comma is nothing but itself in any case. Behind the comma comes the data, which
ends before the next definition or format command.
-/

namespace LabelTemplate

open Text Command Cleaning

/-! ## Letter case -/

/-- A character that is no other one in another case. -/
theorem eq_of_foldCase_eq {x c : Char} (hpositive : 0 < x.toNat)
    (hx : ∀ run ∈ foldRuns, x.toNat < run.first + run.shift ∨ run.last + run.shift < x.toNat)
    (h : foldCase c = x) : c = x := by
  rw [foldCase, shiftBy] at h
  split at h
  · rename_i run hrun
    have hwithin : run.first ≤ c.toNat ∧ c.toNat ≤ run.last := by
      have := List.find?_some hrun
      simp only [ShiftedRun.has, Bool.and_eq_true, decide_eq_true_eq] at this
      exact this.1
    have hbeside := hx run (List.mem_of_find?_eq_some hrun)
    by_cases hvalid : (c.toNat + run.shift).toNat.isValidChar
    · rw [Char.ofNat, dif_pos hvalid] at h
      have hnumber : (c.toNat + run.shift).toNat = x.toNat := congrArg Char.toNat h
      omega
    · rw [Char.ofNat, dif_neg hvalid] at h
      rw [← h] at hpositive
      exact absurd hpositive (by decide)
  · exact h

theorem eq_comma_of_foldCase_eq {c : Char} (h : foldCase c = ',') : c = ',' :=
  eq_of_foldCase_eq (by decide) (by decide +kernel) h

theorem eq_tilde_of_foldCase_eq {c : Char} (h : foldCase c = '~') : c = '~' :=
  eq_of_foldCase_eq (by decide) (by decide +kernel) h

namespace Text

theorem startsWithFolded_self (p r : Text) : startsWithFolded p (p ++ r) = true := by
  induction p with
  | nil => rfl
  | cons c p ih => simp [startsWithFolded, sameLetter, ih]

/-- What begins with a pattern in some case has as many characters in front of its last one. -/
theorem exists_of_startsWithFolded {p t : Text} {d : Char}
    (h : startsWithFolded (p ++ [d]) t = true) :
    ∃ u c v, t = u ++ c :: v ∧ u.length = p.length ∧ sameLetter d c = true := by
  induction p generalizing t with
  | nil =>
      cases t with
      | nil => exact absurd h (by simp [startsWithFolded])
      | cons c v => exact ⟨[], c, v, rfl, rfl, by simpa [startsWithFolded] using h⟩
  | cons e p ih =>
      cases t with
      | nil => exact absurd h (by simp [startsWithFolded])
      | cons b t =>
          rw [List.cons_append, startsWithFolded, Bool.and_eq_true] at h
          obtain ⟨u, c, v, rfl, hlength, hc⟩ := ih h.2
          exact ⟨b :: u, c, v, rfl, by simp [hlength], hc⟩

end Text

/-! ## The definition that is found -/

namespace Definitions

/-- The data of a definition ends before the next format command. -/
theorem formatFree_of_splitBefore {t data rest : Text}
    (h : splitBefore atBlockEnd t = (data, rest)) : FormatFree data :=
  ⟨not_infix_of_splitBefore h (by decide) fun r => by simp [atBlockEnd, startsWithFolded_self],
    not_infix_of_splitBefore h (by decide) fun r => by simp [atBlockEnd, startsWithFolded_self]⟩

/-- **A definition that is found has the comma where the name ends, and no format command.** -/
theorem exists_lookup_eq {d : Definitions} {name : Text} (h : d.lookup name ≠ []) :
    ∃ start data, d.lookup name = start ++ ',' :: data ∧
      start.length = (storeGraphic ++ name).length ∧ FormatFree data := by
  have hname : ¬ name.isEmpty = true := by
    intro hempty
    rw [lookup, if_pos hempty] at h
    exact h rfl
  rw [lookup, if_neg hname] at h ⊢
  obtain ⟨before, block, hsplit⟩ : ∃ before block,
      splitBefore (startsWithFolded (opening name)) d.text = (before, block) := ⟨_, _, rfl⟩
  simp only [hsplit] at h ⊢
  cases block with
  | nil => exact absurd rfl h
  | cons e block =>
      have hstarts := (splitBefore_eq_iff.mp hsplit).2.2 (by simp)
      obtain ⟨start, c, rest, heq, hlength, hc⟩ := exists_of_startsWithFolded hstarts
      obtain rfl : c = ',' := eq_comma_of_foldCase_eq (by
        rw [sameLetter, beq_iff_eq] at hc
        exact hc.symm.trans (by decide))
      have hcut : (opening name).length = (start ++ [',']).length := by
        simp only [opening, List.length_append, hlength, List.length_singleton]
      have hblock : e :: block = start ++ [','] ++ rest := by simpa using heq
      simp only [hblock, hcut, List.take_left, List.drop_left]
      exact ⟨start, (splitBefore atBlockEnd rest).1, by simp, hlength,
        formatFree_of_splitBefore rfl⟩

end Definitions

end LabelTemplate
