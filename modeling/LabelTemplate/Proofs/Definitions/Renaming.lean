import LabelTemplate.Definitions
import LabelTemplate.Proofs.Scan.Rewriting
import LabelTemplate.Proofs.Statement.Grammar
import LabelTemplate.Proofs.Text.Trim

/-!
# Definitions under new names

The captured definitions are one stretch of text, from the first store command to the start of the
format. To rename is to scan that stretch for the beginnings of definitions. What is put in begins
with a tilde and has no caret, so renaming brings up no command that was not there
(`infix_of_infix_replace`). The beginning of a definition under its new name is there afterwards,
unless a store command stands inside a name: then the scan may come upon the one or the other first
(`opening_infix_replace`).
-/

namespace LabelTemplate

open Text Command Scan Statement

namespace Definitions

/-! ## What is captured -/

theorem capture_eq (document : Text) :
    capture document = {} ∨ ∃ body, ¬ formatStart <:+: body ∧
      capture document = { text := storeGraphic ++ body ++ formatStart } := by
  rw [capture]
  cases cut? storeGraphic document with
  | none => exact .inl rfl
  | some cut =>
      obtain ⟨before, behind⟩ := cut
      cases hcut : cut? formatStart behind with
      | none => exact .inl (by simp only [hcut])
      | some cut =>
          obtain ⟨body, rest⟩ := cut
          exact .inr ⟨body, ((cut?_eq_some_iff isCommand_formatStart).mp hcut).2,
            by simp only [hcut]⟩

theorem trimEnd_storeGraphic (t : Text) : trimEnd (storeGraphic ++ t) = storeGraphic ++ t.trimEnd :=
  trimEnd_append_cons (by decide) ['~', 'D'] t

/-- Captured definitions without the format start: the blanks at their end go, too. -/
theorem body_eq {d : Definitions} {body : Text}
    (h : d.text = storeGraphic ++ body ++ formatStart) : d.body = storeGraphic ++ body.trimEnd := by
  have hdrop : dropSuffix formatStart d.text = storeGraphic ++ body := by
    rw [h, dropSuffix, if_pos (List.isSuffixOf_iff_suffix.mpr (List.suffix_append _ _)),
      List.length_append, Nat.add_sub_cancel, List.take_left]
  rw [Definitions.body, hdrop, trimEnd_storeGraphic]

/-! ## Beginnings -/

theorem opening_eq (name rest : Text) :
    opening name ++ rest = storeGraphic ++ (name ++ ',' :: rest) := by simp [opening]

theorem opening_ne_nil (name : Text) : opening name ≠ [] := by simp [opening]

/-- A beginning is on one side of a caret. -/
theorem opening_infix_append_iff {name r : Text} (hname : '^' ∉ name) (hr : AtCaret r) (u : Text) :
    opening name <:+: u ++ r ↔ opening name <:+: u ∨ opening name <:+: r := by
  obtain ⟨r, rfl⟩ := hr
  exact infix_append_iff_of_head (opening_ne_nil name)
    (by simpa [opening, storeGraphic] using hname)

/-- A beginning does not begin where there is no tilde. -/
theorem opening_infix_append_of_not_mem {v : Text} (hv : '~' ∉ v) (name r : Text) :
    opening name <:+: v ++ r ↔ opening name <:+: r :=
  infix_append_iff_of_not_mem (opening_ne_nil name) (by simpa [opening, storeGraphic] using hv)

theorem mem_effective_iff {names : Renaming} {old new : Text} :
    (old, new) ∈ effective names ↔ (old, new) ∈ names ∧ old ≠ [] ∧ old ≠ new := by
  simp [effective]

/-! ## Beginnings that are renamed -/

variable {names : Renaming}

theorem renamedOpening_eq_some {t new : Text} {n : Nat}
    (h : renamedOpening names t = some (new, n)) :
    ∃ old rest, (old, new) ∈ names ∧ t = storeGraphic ++ (old ++ ',' :: rest) ∧
      n = (storeGraphic ++ old).length := by
  obtain ⟨behind, hbehind, h⟩ := Option.bind_eq_some_iff.mp h
  obtain ⟨⟨old, new⟩, hfind, h⟩ := Option.bind_eq_some_iff.mp h
  obtain ⟨rfl, rfl⟩ := Prod.mk.inj (Option.some.inj h)
  obtain rfl := after?_eq_some_iff.mp hbehind
  have hpre : (old ++ [',']).isPrefixOf behind = true := by simpa using List.find?_some hfind
  obtain ⟨rest, rfl⟩ := List.isPrefixOf_iff_prefix.mp hpre
  exact ⟨old, rest, List.mem_of_find?_eq_some hfind, by simp, by simp⟩

theorem renamedOpening_eq_none_iff {t : Text} :
    renamedOpening names t = none ↔
      ∀ old new rest, (old, new) ∈ names → t ≠ storeGraphic ++ (old ++ ',' :: rest) := by
  constructor
  · rintro h old new rest hmem rfl
    rw [renamedOpening, after?_eq_some_iff.mpr rfl] at h
    simp only [Option.bind_eq_bind, Option.bind_some, Option.bind_eq_none_iff] at h
    have hnone := Option.eq_none_iff_forall_ne_some.mpr fun entry hfind =>
      absurd (h entry hfind) (by simp)
    refine List.find?_eq_none.mp hnone _ hmem (List.isPrefixOf_iff_prefix.mpr ⟨rest, ?_⟩)
    simp
  · intro h
    rw [Option.eq_none_iff_forall_ne_some]
    rintro ⟨new, n⟩ hsome
    obtain ⟨old, rest, hmem, ht, _⟩ := renamedOpening_eq_some hsome
    exact h old new rest hmem ht

theorem renamedOpening_of_ne {c : Char} (h : c ≠ '~') (cs : Text) :
    renamedOpening names (c :: cs) = none :=
  renamedOpening_eq_none_iff.mpr fun _ _ _ _ heq => h (List.cons.inj heq).1

theorem exact_renamedOpening (names : Renaming) : Exact (renamedOpening names) := by
  intro t new n h
  obtain ⟨old, rest, _, rfl, rfl⟩ := renamedOpening_eq_some h
  simp only [List.length_append, storeGraphic, List.length_cons]
  omega

/-! ## What renaming brings up -/

/-- What has no tilde is brought up by nothing that begins with one. -/
theorem prefix_of_prefix_replace {p : Text} (hp : '~' ∉ p) {t : Text}
    (h : p <+: replace (renamedOpening names) (storeGraphic ++ ·) t) : p <+: t := by
  induction p generalizing t with
  | nil => exact List.nil_prefix
  | cons d p ih =>
      rw [List.mem_cons, not_or] at hp
      cases t using (exact_renamedOpening names).induction with
      | nil => exact h
      | plain c cs hnone _ =>
          rw [replace_of_none hnone, List.cons_prefix_cons] at h
          exact List.cons_prefix_cons.mpr ⟨h.1, ih hp.2 h.2⟩
      | hit t new n hsome _ =>
          rw [replace_of_some (exact_renamedOpening names) hsome] at h
          exact absurd (List.cons_prefix_cons.mp h).1 (Ne.symm hp.1)

/-- **Renaming brings up no command.** -/
theorem infix_of_infix_replace {p : Text} (hp : IsCommand p) (htilde : '~' ∉ p)
    (hnew : ∀ old new, (old, new) ∈ names → '^' ∉ new) {t : Text}
    (h : p <:+: replace (renamedOpening names) (storeGraphic ++ ·) t) : p <:+: t := by
  induction t using (exact_renamedOpening names).induction with
  | nil => exact h
  | plain c cs hnone ih =>
      rw [replace_of_none hnone] at h
      rcases List.infix_cons_iff.mp h with h | h
      · rw [← replace_of_none hnone] at h
        exact (prefix_of_prefix_replace htilde h).isInfix
      · exact List.infix_cons (ih h)
  | hit t new n hsome ih =>
      rw [replace_of_some (exact_renamedOpening names) hsome] at h
      obtain ⟨old, rest, hmem, _, _⟩ := renamedOpening_eq_some hsome
      have hcaret : '^' ∉ storeGraphic ++ new := by
        rw [List.mem_append, not_or]
        exact ⟨by decide, hnew old new hmem⟩
      rw [hp.infix_append_of_not_mem hcaret] at h
      exact (ih h).trans (List.drop_suffix n t).isInfix

/-- A store command whose name is not renamed stays as it is. -/
theorem replace_storeGraphic_of_none {data : Text}
    (h : renamedOpening names (storeGraphic ++ data) = none) :
    replace (renamedOpening names) (storeGraphic ++ ·) (storeGraphic ++ data) =
      storeGraphic ++ replace (renamedOpening names) (storeGraphic ++ ·) data := by
  have hstart : renamedOpening names ('~' :: 'D' :: 'G' :: data) = none := h
  change replace _ _ ('~' :: 'D' :: 'G' :: data) = _
  rw [replace_of_none hstart, replace_of_none (renamedOpening_of_ne (by decide) _),
    replace_of_none (renamedOpening_of_ne (by decide) _)]
  rfl

/-- What begins with a store command begins with one under the new names. -/
theorem exists_replace_eq (names : Renaming) (data : Text) : ∃ data',
    replace (renamedOpening names) (storeGraphic ++ ·) (storeGraphic ++ data) =
      storeGraphic ++ data' := by
  cases hrec : renamedOpening names (storeGraphic ++ data) with
  | none => exact ⟨_, replace_storeGraphic_of_none hrec⟩
  | some found =>
      obtain ⟨new, n⟩ := found
      rw [replace_of_some (exact_renamedOpening names) hrec, List.append_assoc]
      exact ⟨_, rfl⟩

/-! ## Definitions that can be found -/

theorem not_mem_storeGraphic_append {name : Text} (h : ',' ∉ name) :
    ',' ∉ storeGraphic ++ name := by
  rw [List.mem_append, not_or]
  exact ⟨by decide, h⟩

/-- A store command with a name stands at the end of another, or in the name of that one. -/
theorem storeGraphic_append_suffix {a b : Text} (h : storeGraphic ++ a <:+ storeGraphic ++ b) :
    a = b ∨ storeGraphic ++ a <:+ b := by
  rcases List.suffix_cons_iff.mp h with heq | h
  · exact .inl ((List.append_right_inj storeGraphic).mp heq)
  · refine .inr ((suffix_append_iff_of_not_mem (v := ['D', 'G']) ?_ ?_).mp h)
    · simp [storeGraphic]
    · simp [storeGraphic]

/--
**A definition is found under the new name.**

The name has one new name, and it is apart from the others: no other name holds a store command with
this one, and this one holds none with another.
-/
theorem opening_infix_replace {name current : Text} (hname : ',' ∉ name)
    (hold : ∀ old new, (old, new) ∈ names → ',' ∉ old)
    (hcurrent : ∀ new, (name, new) ∈ names → new = current)
    (hentry : name = current ∨ (name, current) ∈ names)
    (hapart : ∀ old new, (old, new) ∈ names →
      ¬ storeGraphic ++ old <:+ name ∧ ¬ storeGraphic ++ name <:+ old)
    {t : Text} (h : opening name <:+: t) :
    opening current <:+: replace (renamedOpening names) (storeGraphic ++ ·) t := by
  induction t using (exact_renamedOpening names).induction with
  | nil => exact absurd (List.infix_nil.mp h) (opening_ne_nil name)
  | plain c cs hnone ih =>
      rcases List.infix_cons_iff.mp h with ⟨rest, hrest⟩ | h
      · rw [opening_eq] at hrest
        have hsame : name = current := by
          refine hentry.resolve_right fun hmem => ?_
          exact renamedOpening_eq_none_iff.mp hnone name current rest hmem hrest.symm
        subst hsame
        -- no other definition begins inside this beginning
        have hinside : ∀ u, u ≠ [] → u <:+ opening name →
            renamedOpening names (u ++ rest) = none := by
          refine fun u hu hsuffix => renamedOpening_eq_none_iff.mpr fun old new rest' hmem heq => ?_
          obtain ⟨w, rfl, hw⟩ := (List.suffix_concat_iff.mp hsuffix).resolve_left hu
          have hcomma : ',' ∉ w := fun h => not_mem_storeGraphic_append hname (hw.subset h)
          rw [List.append_assoc, ← List.append_assoc storeGraphic] at heq
          obtain ⟨rfl, _⟩ := append_cons_inj_of_not_mem hcomma
            (not_mem_storeGraphic_append (hold old new hmem)) heq
          rcases storeGraphic_append_suffix hw with rfl | hw
          · exact renamedOpening_eq_none_iff.mp hnone old new rest hmem hrest.symm
          · exact (hapart old new hmem).1 hw
        rw [← hrest, ← opening_eq, replace_append_of_none hinside]
        exact (List.prefix_append _ _).isInfix
      · rw [replace_of_none hnone]
        exact List.infix_cons (ih h)
  | hit t new n hsome ih =>
      obtain ⟨old, rest, hmem, rfl, rfl⟩ := renamedOpening_eq_some hsome
      have hsplit : storeGraphic ++ (old ++ ',' :: rest) = storeGraphic ++ old ++ ',' :: rest := by
        rw [List.append_assoc]
      rw [hsplit, List.drop_left, replace_of_none (renamedOpening_of_ne (by decide) rest)] at ih
      rw [replace_of_some (exact_renamedOpening names) hsome, hsplit, List.drop_left,
        replace_of_none (renamedOpening_of_ne (by decide) rest)]
      rw [hsplit] at h
      -- the beginning is the one that is renamed, or it comes behind that one's comma
      rcases suffix_or_infix_of_separator (not_mem_storeGraphic_append hname)
        (not_mem_storeGraphic_append (hold old new hmem)) h with h | h
      · rcases storeGraphic_append_suffix h with rfl | h
        · rw [hcurrent new hmem]
          exact ⟨[], replace (renamedOpening names) (storeGraphic ++ ·) rest, by simp [opening]⟩
        · exact absurd h (hapart old new hmem).2
      · exact (ih (List.infix_cons h)).trans (List.suffix_append _ _).isInfix

/-- The format start and blanks are all that the definitions lose. -/
theorem opening_infix_body_iff {d : Definitions} {name : Text} :
    opening name <:+: d.body ↔ opening name <:+: d.text := by
  have hcomma : isBlank ',' = false := by decide
  have htrim (t : Text) : opening name <:+: trimEnd t ↔ opening name <:+: t :=
    ⟨fun h => h.trans (trimEnd_isPrefix t).isInfix, infix_trimEnd hcomma⟩
  rw [body, htrim, dropSuffix]
  split
  · rename_i hends
    obtain ⟨u, hu⟩ := List.isSuffixOf_iff_suffix.mp hends
    rw [← hu, List.length_append, Nat.add_sub_cancel, List.take_left]
    exact (infix_append_iff_of_separator (by decide)).symm
  · rfl

/-- **A captured definition is found under the new name of its graphic.** -/
theorem opening_infix_renamed {d : Definitions} {name current : Text} (hne : name ≠ [])
    (hcomma : ',' ∉ name) (hold : ∀ old new, (old, new) ∈ names → ',' ∉ old)
    (hcurrent : ∀ new, (name, new) ∈ names → new = current)
    (hentry : ∃ new, (name, new) ∈ names)
    (hapart : ∀ old new, (old, new) ∈ names →
      ¬ storeGraphic ++ old <:+ name ∧ ¬ storeGraphic ++ name <:+ old)
    (h : opening name <:+: d.text) : opening current <:+: d.renamed names := by
  have hmem : ∀ {old new}, (old, new) ∈ effective names → (old, new) ∈ names := fun h =>
    (mem_effective_iff.mp h).1
  refine opening_infix_replace hcomma (fun old new h => hold old new (hmem h))
    (fun new h => hcurrent new (hmem h)) ?_ (fun old new h => hapart old new (hmem h))
    (opening_infix_body_iff.mpr h)
  obtain ⟨new, hnew⟩ := hentry
  obtain rfl := hcurrent new hnew
  by_cases hsame : name = new
  · exact .inl hsame
  · exact .inr (mem_effective_iff.mpr ⟨hnew, hne, hsame⟩)

end Definitions

end LabelTemplate
