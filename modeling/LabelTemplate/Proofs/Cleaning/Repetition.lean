import LabelTemplate.Proofs.Cleaning.Housekeeping
import LabelTemplate.Proofs.Cleaning.Printing
import LabelTemplate.Proofs.Scan.Removal

/-!
# Steps that may not settle in one go

To restore underscores and to take out housekeeping both make a text shorter in its middle, and what
was apart comes together. The underscore that a code becomes is followed by what followed the code;
if that is 5f once more, it is a code again. Where a format was taken out, a format start may come
to stand in front of a delete command.

There is no other way: repeating a step changes nothing just if no field data has a code with its
digits twice, and nothing that was taken out stood inside what would have been the beginning of
another format to be taken out (`repeated_steps_change_nothing_iff`).
-/

namespace LabelTemplate.Cleaning

open Text Command Scan Statement

/-! ## Specification -/

/-- A code behind which its digits stand once more. -/
def doubledCode : Text := escapedUnderscore ++ ['5', 'f']

/-- A format start and, but for blanks right behind it, a delete command. -/
def IsHeader (h : Text) : Prop :=
  ∃ gap, (∀ c ∈ gap, isBlank c = true) ∧ h = formatStart ++ (gap ++ deleteObject)

/-- Put together, two texts have the beginning of a format that is taken out across their join. -/
def Rejoins (left right : Text) : Prop :=
  ∃ h₁ h₂ behind, IsHeader (h₁ ++ h₂) ∧ h₁ ≠ [] ∧ h₂ ≠ [] ∧ h₁ <:+ left ∧ right = h₂ ++ behind ∧
    EndsFormat behind

/-! ## Underscores -/

/-- To restore changes nothing at the front of a text up to the first underscore. -/
theorem prefix_restore_iff {p : Text} (hp : '_' ∉ p) (t : Text) : p <+: restore t ↔ p <+: t := by
  induction p generalizing t with
  | nil => simp
  | cons d p ih =>
      rw [List.mem_cons, not_or] at hp
      constructor
      · rintro ⟨u, hu⟩
        obtain ⟨t', rfl, ht'⟩ := exists_cons_of_restore hu.symm (Ne.symm hp.1)
        exact List.cons_prefix_cons.mpr ⟨rfl, (ih hp.2 t').mp ⟨u, ht'.symm⟩⟩
      · rintro ⟨u, rfl⟩
        rw [List.cons_append, restore_cons_of_ne (Ne.symm hp.1)]
        exact List.cons_prefix_cons.mpr ⟨rfl, (ih hp.2 _).mpr (List.prefix_append p u)⟩

/-- A code is there after restoring just if one had its digits twice. -/
theorem code_infix_restore_iff (t : Text) :
    escapedUnderscore <:+: restore t ↔ doubledCode <:+: t := by
  have hne : escapedUnderscore ≠ [] := by decide
  have hdigits : '_' ∉ ['5', 'f'] := by decide
  induction t using induction_on_pattern hne with
  | nil => decide
  | plain c cs hno ih =>
      have hcode : ¬ escapedUnderscore <+: c :: restore cs := by
        rw [escapedUnderscore, List.cons_prefix_cons] at hno ⊢
        rwa [prefix_restore_iff hdigits]
      have hdouble : ¬ doubledCode <+: c :: cs := fun hpre =>
        hno ((List.prefix_append _ _).trans hpre)
      rw [restore_cons hno, List.infix_cons_iff, List.infix_cons_iff]
      simp only [hcode, hdouble, false_or]
      exact ih
  | occurrence t ih =>
      have hcode : escapedUnderscore <+: '_' :: restore t ↔ ['5', 'f'] <+: t := by
        rw [escapedUnderscore, List.cons_prefix_cons, prefix_restore_iff hdigits]
        exact and_iff_right rfl
      have hdouble : doubledCode <:+: escapedUnderscore ++ t ↔ ['5', 'f'] <+: t ∨
          doubledCode <:+: t := by
        have hhead : ∀ c ∈ doubledCode.head?, c ∉ ['5', 'f'] := by
          simp [doubledCode, escapedUnderscore]
        change doubledCode <:+: '_' :: (['5', 'f'] ++ t) ↔ _
        rw [List.infix_cons_iff, infix_append_iff_of_not_mem (by decide) hhead]
        exact or_congr_left (List.prefix_append_right_inj escapedUnderscore)
      rw [restore_escaped, List.infix_cons_iff, hcode, hdouble]
      exact or_congr_right ih

theorem restore_restore_iff (t : Text) :
    restore (restore t) = restore t ↔ ¬ doubledCode <:+: t := by
  rw [← code_infix_restore_iff]
  refine ⟨fun h hcode => ?_, replaceAll_eq_self⟩
  have hlt := (length_restore (restore t)).2 hcode
  rw [h] at hlt
  exact Nat.lt_irrefl _ hlt

theorem doubledCode_infix_data (value : Text) :
    doubledCode <:+: Command.fieldData ++ value ++ Command.fieldEnd ↔ doubledCode <:+: value := by
  have hdata : ∀ c ∈ doubledCode.head?, c ∉ Command.fieldData := by
    simp [doubledCode, escapedUnderscore, Command.fieldData]
  have hend : ∀ c ∈ Command.fieldEnd.head?, c ∉ doubledCode.tail := by
    simp [doubledCode, escapedUnderscore, Command.fieldEnd]
  have hno : ¬ doubledCode <:+: Command.fieldEnd := by decide
  rw [infix_append_iff_of_head (by decide) hend, infix_append_iff_of_not_mem (by decide) hdata,
    or_iff_left hno]

/-- Where no data begin, none begin in the restored text, as no end of a statement comes up. -/
theorem fieldData_cons_restoreUnderscores {c : Char} {cs : Text} (h : fieldData (c :: cs) = none) :
    fieldData (c :: restoreUnderscores cs) = none := by
  have hrestored : restoreUnderscores (c :: cs) = c :: restoreUnderscores cs := replace_of_none h
  rw [fieldData_eq_none_iff] at h ⊢
  intro z hz hend
  have hdata : Command.fieldData <+: c :: cs := by
    rw [Command.fieldData, List.cons_prefix_cons]
    obtain ⟨hc, hcs⟩ := List.cons.inj hz
    exact ⟨hc.symm, (prefix_restoreFrom_iff (by decide) false cs).mp ⟨z, hcs.symm⟩⟩
  obtain ⟨z', hz'⟩ := hdata
  have hno := h z' hz'.symm
  rw [← hrestored, ← hz', restoreUnderscores_fieldData hno, List.append_right_inj] at hz
  rw [← hz] at hend
  have hend' : Command.fieldEnd <:+: restoreFrom false z' := hend
  exact hno (infix_of_infix_restoreFrom (by decide) hend')

/-- **Data are restored once more just if they have the digits of a code twice.** -/
theorem restoreUnderscores_restoreUnderscores_iff (t : Text) :
    restoreUnderscores (restoreUnderscores t) = restoreUnderscores t ↔
      ∀ data ∈ found fieldData t, ¬ doubledCode <:+: data := by
  induction t using exact_fieldData.induction with
  | nil => exact iff_of_true rfl (by simp)
  | plain c cs h ih =>
      have hrestored : restoreUnderscores (c :: cs) = c :: restoreUnderscores cs :=
        replace_of_none h
      have hagain : restoreUnderscores (c :: restoreUnderscores cs) =
          c :: restoreUnderscores (restoreUnderscores cs) :=
        replace_of_none (fieldData_cons_restoreUnderscores h)
      rw [hrestored, hagain, found_of_none h, ← ih]
      simp
  | hit t data n h ih =>
      have hfound := found_of_some exact_fieldData h
      obtain ⟨value, rest, rfl, hvalue, rfl, rfl⟩ := fieldData_eq_some_iff.mp h
      have hdrop : (Command.fieldData ++ (value ++ (Command.fieldEnd ++ rest))).drop
          (Command.fieldData ++ value ++ Command.fieldEnd).length = rest := by
        rw [← List.append_assoc, ← List.append_assoc, List.drop_left]
      rw [hdrop] at ih hfound
      have hrestored := not_fieldEnd_infix_restore hvalue
      rw [restoreUnderscores_data hvalue, restoreUnderscores_data hrestored,
        List.append_right_inj, isCommand_fieldEnd.append_inj
          (not_fieldEnd_infix_restore hrestored) hrestored, hfound, List.forall_mem_cons,
        doubledCode_infix_data, ← restore_restore_iff]
      exact and_congr_right fun _ => ih

/-! ## Housekeeping -/

/-- What is taken out begins with a header, and a format ends behind that. -/
theorem housekeeping_ne_none_iff {t : Text} :
    housekeeping t ≠ none ↔ ∃ h behind, IsHeader h ∧ t = h ++ behind ∧ EndsFormat behind := by
  constructor
  · intro hsome
    obtain ⟨⟨_, n⟩, hsome⟩ := Option.ne_none_iff_exists'.mp hsome
    obtain ⟨data, raw, rest, rfl, _, hraw⟩ := housekeeping_eq_some hsome
    cases hraw with
    | @intro gap gap' gap'' hgap hgap' hgap'' _ =>
        refine ⟨_, data ++ (fieldEnd ++ (gap' ++ (formatEnd ++ (gap'' ++ rest)))),
          ⟨gap, hgap, rfl⟩, by simp, gap', hgap', data, gap'' ++ rest, by simp⟩
  · rintro ⟨h, behind, ⟨gap, hgap, rfl⟩, rfl, hend⟩
    have htrim : trimStart (gap ++ (deleteObject ++ behind)) = deleteObject ++ behind :=
      trimStart_append hgap fun c hc => by
        obtain rfl := Option.some.inj hc
        decide
    obtain ⟨rest, hrest⟩ := Option.ne_none_iff_exists'.mp (behindFirstFormat?_ne_none hend)
    simp only [List.append_assoc]
    simp [housekeeping, after?_eq_some_iff.mpr rfl, htrim, hrest]

/-- If a format ends in what stays, then one ends in what was there. -/
theorem EndsFormat.spell_of_kept {t : Text} {before rest : List (Piece Unit)}
    (ht : pieces housekeeping t = before ++ rest) (h : EndsFormat (kept rest)) :
    EndsFormat (spell rest) := by
  rcases kept_eq_spell_or rest with heq | ⟨rest', _, raw, after, rfl⟩
  · rwa [← heq]
  · -- what was taken out ends a format itself
    have hhit : .hit () raw ∈ pieces housekeeping t := by rw [ht]; simp
    obtain ⟨data, hraw⟩ := exists_housekeeping hhit
    refine hraw.endsFormat.of_infix ?_
    rw [spell_append, spell_cons]
    exact (List.prefix_append raw _).isInfix.trans (List.suffix_append _ _).isInfix

/-- **Housekeeping is taken out once more just if a header comes together.** -/
theorem stripHousekeeping_stripHousekeeping_iff (t : Text) :
    stripHousekeeping (stripHousekeeping t) = stripHousekeeping t ↔
      ∀ before raw after, pieces housekeeping t = before ++ .hit () raw :: after →
        ¬ Rejoins (kept before) (kept after) := by
  rw [stripHousekeeping, stripHousekeeping, replace_replace_iff exact_housekeeping]
  constructor
  · rintro hnone before raw after hpieces ⟨h₁, h₂, behind, hheader, hne, _, hsuffix, hright, hend⟩
    obtain ⟨before', c, between, rfl, hh₁⟩ := exists_of_suffix_kept hne hsuffix
    have hstays : c :: kept (between ++ .hit () raw :: after) = h₁ ++ h₂ ++ behind := by
      rw [hh₁, kept_append, kept_hit, hright]
      simp
    refine housekeeping_ne_none_iff.mpr ⟨h₁ ++ h₂, behind, hheader, hstays, hend⟩ ?_
    exact hnone before' c (between ++ .hit () raw :: after) (by rw [hpieces]; simp)
  · intro hno before c after hpieces
    by_contra hsome
    obtain ⟨h, behind, hheader, hstays, hend⟩ := housekeeping_ne_none_iff.mp hsome
    rw [← kept_plain] at hstays
    rcases exists_of_kept_eq_append hstays with
      ⟨rest, hsplit, rfl⟩ | ⟨h₁, h₂, _, raw, rest, rfl, hne, hsplit, hrest⟩
    · -- the header was there, and a format ends behind it
      have hplain := recognise_eq_none_of_plain exact_housekeeping hpieces
      rw [hsplit, ← List.append_assoc] at hpieces
      refine housekeeping_ne_none_iff.mpr ⟨h, spell rest, hheader, ?_, hend.spell_of_kept hpieces⟩
        hplain
      have hspell := congrArg spell hsplit
      rw [spell_append, spell_map_plain] at hspell
      exact hspell
    · -- something was taken out inside the header
      rw [hsplit, ← List.append_assoc] at hpieces
      refine hno _ raw rest hpieces ⟨h₁, h₂, behind, hheader, ?_, hne, ?_, hrest, hend⟩
      · rintro rfl
        exact absurd (List.cons.inj hsplit).1 (by simp)
      · rw [kept_append, kept_map_plain]
        exact List.suffix_append _ _

/-! ## Both steps -/

/--
**Repeating the two steps changes nothing just in these cases.**

Underscores are restored once more if in some field data a code has its digits twice. Housekeeping
is taken out once more if something was taken out of the middle of a header, behind which a format
still ends.
-/
theorem repeated_steps_change_nothing_iff (t : Text) :
    (restoreUnderscores (restoreUnderscores t) = restoreUnderscores t ↔
      ∀ data ∈ found fieldData t, ¬ doubledCode <:+: data) ∧
    (stripHousekeeping (stripHousekeeping t) = stripHousekeeping t ↔
      ∀ before raw after, pieces housekeeping t = before ++ .hit () raw :: after →
        ¬ Rejoins (kept before) (kept after)) :=
  ⟨restoreUnderscores_restoreUnderscores_iff t, stripHousekeeping_stripHousekeeping_iff t⟩

/-- An underscore that comes back is the first character of a code again, and a format start that
stays in front of one format that is taken out stands before the delete command of another one. -/
theorem repeated_steps_change_more :
    let data := "^FT1,2^FH^FDA_5f5fB^FS".toList
    let formats := "^XA\n^XA^IDR:A.GRF^FS^XZ\n^IDR:B.GRF^FS^XZ".toList
    restoreUnderscores data = "^FT1,2^FH^FDA_5fB^FS".toList ∧
      restoreUnderscores (restoreUnderscores data) = "^FT1,2^FH^FDA_B^FS".toList ∧
      stripHousekeeping formats = "^XA\n^IDR:B.GRF^FS^XZ".toList ∧
      stripHousekeeping (stripHousekeeping formats) = [] := by
  decide +kernel

end LabelTemplate.Cleaning
