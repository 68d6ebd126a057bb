import LabelTemplate.CodePage
import LabelTemplate.Statement.Basic

/-!
# Escapes bring in no carets

A letter that is written by its code becomes the escape character and hexadecimal
digits. No statement chooses the caret as its escape, so a value without carets is
written without carets, with whatever escape.
-/

namespace LabelTemplate

theorem Text.not_mem_toDigits (n : Nat) : '^' ∉ Nat.toDigits 16 n := by
  induction n using Nat.strongRecOn with
  | ind n ih =>
    have hdigit : ∀ d, d < 16 → '^' ∉ Nat.toDigits 16 d := by
      intro d hd
      rw [Nat.toDigits_of_lt_base hd, List.mem_singleton]
      exact (Nat.digitChar_ne '^' (by decide)).symm
    by_cases hn : n < 16
    · exact hdigit n hn
    · -- the last digit stands behind the digits of the quotient
      have hsplit := Nat.toDigits_append_toDigits (b := 16) (n := n / 16) (d := n % 16)
        (by decide) (by omega) (Nat.mod_lt n (by decide))
      rw [Nat.div_add_mod] at hsplit
      rw [← hsplit, List.mem_append, not_or]
      exact ⟨ih (n / 16) (by omega), hdigit (n % 16) (Nat.mod_lt n (by decide))⟩

theorem Text.not_mem_hex (width n : Nat) : '^' ∉ Text.hex width n := by
  rw [Text.hex, Text.padStart, List.mem_append, List.mem_replicate, not_or]
  exact ⟨fun h => absurd h.2 (by decide), Text.not_mem_toDigits n⟩

namespace CodePage

theorem not_mem_escapeLetter {escape : Text} {c : Char} (hescape : '^' ∉ escape) (hc : c ≠ '^') :
    '^' ∉ escapeLetter escape c := by
  unfold escapeLetter
  split
  · simp [hescape, Text.not_mem_hex]
  · simp [hc.symm]

theorem not_mem_escapeLetters {escape t : Text} (hescape : '^' ∉ escape) (ht : '^' ∉ t) :
    '^' ∉ escapeLetters escape t := by
  rw [escapeLetters, List.mem_flatMap]
  rintro ⟨c, hc, hmem⟩
  exact not_mem_escapeLetter hescape (fun h => ht (h ▸ hc)) hmem

theorem not_mem_encode {escape : Char} {t : Text} (hescape : escape ≠ '^') (ht : '^' ∉ t) :
    '^' ∉ encode escape t := by
  rw [encode, List.mem_flatMap]
  rintro ⟨c, hc, hmem⟩
  unfold encodeChar at hmem
  split at hmem
  · simp [hescape.symm, Text.not_mem_hex] at hmem
  · exact not_mem_escapeLetter (by simp [hescape.symm]) (fun h => ht (h ▸ hc)) hmem

end CodePage

namespace Statement

theorem escapeAfter_ne_caret {t : Text} : ∀ c ∈ escapeAfter t, c ≠ '^' := by
  intro c hc
  unfold escapeAfter at hc
  split at hc
  · exact absurd hc (by simp)
  · split at hc
    · exact absurd hc (by simp)
    · rename_i hno
      obtain rfl := Option.some.inj hc
      simp only [Bool.or_eq_true, decide_eq_true_eq, not_or] at hno
      exact hno.1

/-- **No statement is written with carets as escapes.** -/
theorem escape_ne_caret (s : Statement) : s.escape ≠ '^' := by
  have hmarker : ∀ t, ∀ c ∈ markerEscape? t, c ≠ '^' := by
    intro t c hc
    obtain ⟨⟨before, after⟩, _, rfl⟩ := Option.map_eq_some_iff.mp hc
    cases h : escapeAfter after with
    | none => simp [h, defaultEscape]
    | some d => simpa [h] using escapeAfter_ne_caret d h
  unfold escape
  cases h : s.ownEscape? with
  | none => simp [defaultEscape]
  | some c =>
      rw [ownEscape?] at h
      cases hkind : s.kind with
      | image => simp [hkind] at h
      | barcode => simp [hkind] at h
      | text =>
          simp only [hkind] at h
          exact hmarker s.middle c h

end Statement

end LabelTemplate
