import LabelTemplate.Cleaning
import LabelTemplate.Proofs.Scan.Rewriting
import LabelTemplate.Proofs.Statement.Grammar

/-!
# Documents without definitions

What becomes of a store command depends on which format command comes first behind it: definitions
are taken out if it is a format start, and stay if it is a format end or if there is none. To take
definitions out leaves the first format command of every rest what it was
(`opensFormat_stripDefinitions`), so what stayed once stays for good: the result is `Bare`.

`stripDefinitions_insert` is the converse: definitions that are put in before the first format of a
bare document are taken out again as one block, whatever stands in front of them.
-/

namespace LabelTemplate.Cleaning

open Text Command Scan Statement

/-- Is the first format command of a text a format start? -/
def opensFormat (t : Text) : Bool := formatStart.isPrefixOf (splitBefore atFormatCommand t).2

/-- No definitions stand before a format. -/
def Bare (t : Text) : Prop := ∀ u, storeGraphic ++ u <:+ t → opensFormat u = false

/-- No format starts or ends in the text. -/
def FormatFree (t : Text) : Prop := ¬ formatStart <:+: t ∧ ¬ formatEnd <:+: t

/-! ## The first format command -/

theorem atFormatCommand_iff {t : Text} :
    atFormatCommand t = true ↔ formatStart <+: t ∨ formatEnd <+: t := by
  simp [atFormatCommand]

theorem atFormatCommand_formatStart (t : Text) : atFormatCommand (formatStart ++ t) = true :=
  atFormatCommand_iff.mpr (.inl (List.prefix_append _ t))

theorem FormatFree.not_atFormatCommand {t u r : Text} (h : FormatFree t) (hu : u ≠ [])
    (hsuffix : u <:+ t) (hr : AtCaret r) : atFormatCommand (u ++ r) = false := by
  refine Bool.eq_false_iff.mpr fun hat => ?_
  rw [atFormatCommand_iff, isCommand_formatStart.prefix_append_iff hu hr,
    isCommand_formatEnd.prefix_append_iff hu hr] at hat
  rcases hat with hat | hat
  · exact h.1 (hat.isInfix.trans hsuffix.isInfix)
  · exact h.2 (hat.isInfix.trans hsuffix.isInfix)

theorem FormatFree.of_infix {t u : Text} (h : FormatFree t) (hu : u <:+: t) : FormatFree u :=
  ⟨fun hin => h.1 (hin.trans hu), fun hin => h.2 (hin.trans hu)⟩

/-- Characters that are no caret make no difference. -/
theorem formatFree_append_iff {v : Text} (hv : '^' ∉ v) (t : Text) :
    FormatFree (v ++ t) ↔ FormatFree t := by
  rw [FormatFree, isCommand_formatStart.infix_append_of_not_mem hv,
    isCommand_formatEnd.infix_append_of_not_mem hv, FormatFree]

theorem FormatFree.append_lineFeed {t : Text} (h : FormatFree t) : FormatFree (t ++ ['\n']) := by
  have hline : ∀ p, IsCommand p → '\n' ∉ p.tail → ¬ p <:+: t → ¬ p <:+: t ++ ['\n'] := by
    intro p hp hend hno hin
    rw [infix_append_iff_of_head hp.ne_nil (by simpa using hend)] at hin
    exact hin.elim hno (hp.not_infix_of_not_mem (by decide))
  exact ⟨hline _ isCommand_formatStart (by decide) h.1,
    hline _ isCommand_formatEnd (by decide) h.2⟩

@[simp] theorem opensFormat_nil : opensFormat [] = false := rfl

theorem opensFormat_cons {c : Char} {cs : Text} (h : atFormatCommand (c :: cs) = false) :
    opensFormat (c :: cs) = opensFormat cs := by
  simp [opensFormat, splitBefore, h]

theorem opensFormat_of_atFormatCommand {t : Text} (h : atFormatCommand t = true) :
    opensFormat t = formatStart.isPrefixOf t := by
  cases t with
  | nil => rfl
  | cons c cs => simp [opensFormat, splitBefore, h]

theorem opensFormat_formatStart (t : Text) : opensFormat (formatStart ++ t) = true := by
  rw [opensFormat_of_atFormatCommand (atFormatCommand_formatStart t)]
  exact List.isPrefixOf_iff_prefix.mpr (List.prefix_append _ t)

theorem formatFree_of_splitBefore {t data rest : Text}
    (h : splitBefore atFormatCommand t = (data, rest)) : FormatFree data :=
  ⟨not_infix_of_splitBefore h (by decide) atFormatCommand_formatStart,
    not_infix_of_splitBefore h (by decide) fun r =>
      atFormatCommand_iff.mpr (.inr (List.prefix_append _ r))⟩

theorem FormatFree.splitBefore_eq {data : Text} (h : FormatFree data) (rest : Text) :
    splitBefore atFormatCommand (data ++ (formatStart ++ rest)) = (data, formatStart ++ rest) :=
  splitBefore_eq_iff.mpr ⟨rfl,
    fun _ hu hsuffix => h.not_atFormatCommand hu hsuffix (isCommand_formatStart.atCaret rest),
    fun _ => atFormatCommand_formatStart rest⟩

/-- Where a format is opened, no format command comes before its start. -/
theorem opensFormat_iff {t : Text} :
    opensFormat t = true ↔ ∃ data rest, t = data ++ (formatStart ++ rest) ∧ FormatFree data := by
  constructor
  · intro h
    obtain ⟨data, behind, hsplit⟩ : ∃ data behind, splitBefore atFormatCommand t = (data, behind) :=
      ⟨_, _, rfl⟩
    rw [opensFormat, hsplit, List.isPrefixOf_iff_prefix] at h
    obtain ⟨rest, rfl⟩ := h
    obtain ⟨rfl, _, _⟩ := splitBefore_eq_iff.mp hsplit
    exact ⟨data, rest, rfl, formatFree_of_splitBefore hsplit⟩
  · rintro ⟨data, rest, rfl, hfree⟩
    rw [opensFormat, hfree.splitBefore_eq]
    exact List.isPrefixOf_iff_prefix.mpr (List.prefix_append _ rest)

/-- A format that ended is not opened by what comes behind it. -/
theorem not_opensFormat_append {t r : Text} (hend : formatEnd <:+: t)
    (hstart : ¬ formatStart <:+: t) (hr : ∀ c ∈ r.head?, c ∉ formatStart.tail) :
    opensFormat (t ++ r) = false := by
  refine Bool.eq_false_iff.mpr fun h => ?_
  obtain ⟨data, rest, heq, hfree⟩ := opensFormat_iff.mp h
  rcases List.append_eq_append_iff.mp heq with ⟨w, rfl, _⟩ | ⟨w, rfl, hw⟩
  · exact hfree.2 (hend.trans (List.prefix_append t w).isInfix)
  · by_cases hnil : w = []
    · rw [hnil, List.append_nil] at hend
      exact hfree.2 hend
    · have hpre : formatStart <+: w ++ r := ⟨rest, hw⟩
      rw [prefix_append_iff_of_head hnil hr] at hpre
      exact hstart (hpre.isInfix.trans (List.suffix_append data w).isInfix)

/-! ## Taking definitions out -/

theorem definitionsBeforeFormat_eq_some_iff {t : Text} {n : Nat} :
    definitionsBeforeFormat t = some ((), n) ↔ ∃ data rest,
      t = storeGraphic ++ (data ++ (formatStart ++ rest)) ∧ FormatFree data ∧
        n = (storeGraphic ++ (data ++ formatStart)).length := by
  have hlength : ∀ data : Text, storeGraphic.length + data.length + formatStart.length =
      (storeGraphic ++ (data ++ formatStart)).length := by
    intro data
    simp only [List.length_append]
    omega
  unfold definitionsBeforeFormat
  constructor
  · intro h
    obtain ⟨behind, hbehind, h⟩ := Option.bind_eq_some_iff.mp h
    obtain ⟨rest, hrest, h⟩ := Option.bind_eq_some_iff.mp h
    obtain ⟨_, rfl⟩ := Prod.mk.inj (Option.some.inj h)
    rw [after?_eq_some_iff] at hbehind hrest
    obtain ⟨data, behind', hsplit⟩ :
        ∃ data behind', splitBefore atFormatCommand behind = (data, behind') := ⟨_, _, rfl⟩
    rw [hsplit] at hrest ⊢
    obtain rfl : behind' = formatStart ++ rest := hrest
    obtain ⟨rfl, _, _⟩ := splitBefore_eq_iff.mp hsplit
    exact ⟨data, rest, hbehind, formatFree_of_splitBefore hsplit, hlength data⟩
  · rintro ⟨data, rest, rfl, hfree, rfl⟩
    rw [after?_eq_some_iff.mpr rfl]
    simp only [Option.bind_eq_bind, Option.bind_some, hfree.splitBefore_eq,
      after?_eq_some_iff.mpr rfl, hlength]
    rfl

theorem definitionsBeforeFormat_eq_none_iff {t : Text} :
    definitionsBeforeFormat t = none ↔
      ∀ u, t = storeGraphic ++ u → opensFormat u = false := by
  constructor
  · rintro h u rfl
    refine Bool.eq_false_iff.mpr fun hopens => ?_
    obtain ⟨data, rest, rfl, hfree⟩ := opensFormat_iff.mp hopens
    rw [definitionsBeforeFormat_eq_some_iff.mpr ⟨data, rest, rfl, hfree, rfl⟩] at h
    exact absurd h (by simp)
  · refine fun h => Option.eq_none_iff_forall_ne_some.mpr fun ⟨_, n⟩ hsome => ?_
    obtain ⟨data, rest, rfl, hfree, _⟩ := definitionsBeforeFormat_eq_some_iff.mp hsome
    have hopens := opensFormat_iff.mpr ⟨data, rest, rfl, hfree⟩
    rw [h _ rfl] at hopens
    exact absurd hopens (by simp)

theorem exact_definitionsBeforeFormat : Exact definitionsBeforeFormat := by
  intro t _ n h
  obtain ⟨data, rest, rfl, _, rfl⟩ := definitionsBeforeFormat_eq_some_iff.mp h
  simp only [List.length_append, storeGraphic, List.length_cons]
  omega

/-- A character stays unless definitions before a format begin with it. -/
theorem stripDefinitions_cons {c : Char} {cs : Text}
    (h : ∀ u, c :: cs = storeGraphic ++ u → opensFormat u = false) :
    stripDefinitions (c :: cs) = c :: stripDefinitions cs :=
  replace_of_none (definitionsBeforeFormat_eq_none_iff.mpr h)

theorem stripDefinitions_cons_of_ne {c : Char} (h : c ≠ '~') (cs : Text) :
    stripDefinitions (c :: cs) = c :: stripDefinitions cs :=
  stripDefinitions_cons fun _ hu => absurd (List.cons.inj hu).1 h

/-- Of definitions before a format, the start of the format stays. -/
theorem stripDefinitions_block {data : Text} (h : FormatFree data) (rest : Text) :
    stripDefinitions (storeGraphic ++ (data ++ (formatStart ++ rest))) =
      formatStart ++ stripDefinitions rest := by
  have hsome := definitionsBeforeFormat_eq_some_iff.mpr ⟨data, rest, rfl, h, rfl⟩
  have hsplit : storeGraphic ++ (data ++ (formatStart ++ rest)) =
      storeGraphic ++ (data ++ formatStart) ++ rest := by simp
  have hdrop : (storeGraphic ++ (data ++ (formatStart ++ rest))).drop
      (storeGraphic ++ (data ++ formatStart)).length = rest := by rw [hsplit, List.drop_left]
  rw [stripDefinitions, replace_of_some exact_definitionsBeforeFormat hsome, hdrop]
  rfl

/-- Induction along the definitions before formats. -/
@[elab_as_elim]
theorem induction_on_definitions {motive : Text → Prop} (nil : motive [])
    (plain : ∀ c cs, (∀ u, c :: cs = storeGraphic ++ u → opensFormat u = false) →
      motive cs → motive (c :: cs))
    (block : ∀ data rest, FormatFree data → motive rest →
      motive (storeGraphic ++ (data ++ (formatStart ++ rest)))) (t : Text) : motive t := by
  induction t using exact_definitionsBeforeFormat.induction with
  | nil => exact nil
  | plain c cs h ih => exact plain c cs (definitionsBeforeFormat_eq_none_iff.mp h) ih
  | hit t a n h ih =>
      obtain ⟨data, rest, rfl, hfree, rfl⟩ := definitionsBeforeFormat_eq_some_iff.mp h
      have hsplit : storeGraphic ++ (data ++ (formatStart ++ rest)) =
          storeGraphic ++ (data ++ formatStart) ++ rest := by simp
      rw [hsplit, List.drop_left] at ih
      exact block data rest hfree ih

/-! ## What stays -/

/-- What has neither a caret nor a tilde is neither taken out nor brought up. -/
theorem prefix_stripDefinitions_iff {p : Text} (hcaret : '^' ∉ p) (htilde : '~' ∉ p) (t : Text) :
    p <+: stripDefinitions t ↔ p <+: t := by
  induction p generalizing t with
  | nil => simp
  | cons d p ih =>
      rw [List.mem_cons, not_or] at hcaret htilde
      cases t using induction_on_definitions with
      | nil => rfl
      | plain c cs h _ =>
          rw [stripDefinitions_cons h, List.cons_prefix_cons, List.cons_prefix_cons,
            ih hcaret.2 htilde.2]
      | block data rest hfree _ =>
          rw [stripDefinitions_block hfree]
          refine iff_of_false (fun hpre => hcaret.1 ?_) fun hpre => htilde.1 ?_
          · exact (List.cons_prefix_cons.mp hpre).1.symm
          · exact (List.cons_prefix_cons.mp hpre).1.symm

theorem formatStart_prefix_cons_iff (c : Char) (cs : Text) :
    formatStart <+: c :: stripDefinitions cs ↔ formatStart <+: c :: cs := by
  rw [formatStart, List.cons_prefix_cons, List.cons_prefix_cons,
    prefix_stripDefinitions_iff (by decide) (by decide)]

theorem formatEnd_prefix_cons_iff (c : Char) (cs : Text) :
    formatEnd <+: c :: stripDefinitions cs ↔ formatEnd <+: c :: cs := by
  rw [formatEnd, List.cons_prefix_cons, List.cons_prefix_cons,
    prefix_stripDefinitions_iff (by decide) (by decide)]

theorem atFormatCommand_cons_stripDefinitions (c : Char) (cs : Text) :
    atFormatCommand (c :: stripDefinitions cs) = atFormatCommand (c :: cs) := by
  rw [Bool.eq_iff_iff, atFormatCommand_iff, atFormatCommand_iff, formatStart_prefix_cons_iff,
    formatEnd_prefix_cons_iff]

/-- **The first format command stays the same.** -/
theorem opensFormat_stripDefinitions (t : Text) :
    opensFormat (stripDefinitions t) = opensFormat t := by
  induction t using induction_on_definitions with
  | nil => rfl
  | plain c cs h ih =>
      rw [stripDefinitions_cons h]
      have hat := atFormatCommand_cons_stripDefinitions c cs
      cases hcommand : atFormatCommand (c :: cs) with
      | false =>
          rw [hcommand] at hat
          rw [opensFormat_cons hat, opensFormat_cons hcommand, ih]
      | true =>
          rw [hcommand] at hat
          rw [opensFormat_of_atFormatCommand hat, opensFormat_of_atFormatCommand hcommand,
            Bool.eq_iff_iff, List.isPrefixOf_iff_prefix, List.isPrefixOf_iff_prefix,
            formatStart_prefix_cons_iff]
  | block data rest hfree ih =>
      have hfree' : FormatFree (storeGraphic ++ data) :=
        (formatFree_append_iff (by decide) data).mpr hfree
      rw [stripDefinitions_block hfree, opensFormat_formatStart]
      exact (opensFormat_iff.mpr ⟨_, rest, by rw [List.append_assoc], hfree'⟩).symm

theorem formatStart_infix_stripDefinitions {t : Text} (h : formatStart <:+: t) :
    formatStart <:+: stripDefinitions t := by
  induction t using induction_on_definitions with
  | nil => exact h
  | plain c cs hplain ih =>
      rw [stripDefinitions_cons hplain]
      rcases List.infix_cons_iff.mp h with h | h
      · exact ((formatStart_prefix_cons_iff c cs).mpr h).isInfix
      · exact List.infix_cons (ih h)
  | block data rest hfree _ =>
      rw [stripDefinitions_block hfree]
      exact (List.prefix_append _ _).isInfix

/-! ## Bare documents -/

theorem Bare.of_suffix {t u : Text} (h : Bare t) (hu : u <:+ t) : Bare u :=
  fun v hv => h v (hv.trans hu)

/-- **What is left has no definitions before a format.** -/
theorem bare_stripDefinitions (t : Text) : Bare (stripDefinitions t) := by
  induction t using induction_on_definitions with
  | nil => exact fun u hu => absurd (List.suffix_nil.mp hu) (by simp [storeGraphic])
  | plain c cs h ih =>
      rw [stripDefinitions_cons h]
      intro u hu
      rcases List.suffix_cons_iff.mp hu with heq | hu
      · -- the command was there before, and so was what comes first behind it
        obtain ⟨rfl, hbehind⟩ := List.cons.inj heq
        have hpre : ['D', 'G'] <+: stripDefinitions cs := ⟨u, hbehind⟩
        rw [prefix_stripDefinitions_iff (by decide) (by decide)] at hpre
        obtain ⟨v, rfl⟩ := hpre
        have hstrip : stripDefinitions (['D', 'G'] ++ v) = ['D', 'G'] ++ stripDefinitions v := by
          change stripDefinitions ('D' :: 'G' :: v) = _
          rw [stripDefinitions_cons_of_ne (by decide), stripDefinitions_cons_of_ne (by decide)]
          rfl
        rw [hstrip] at hbehind
        obtain rfl := (List.append_right_inj ['D', 'G']).mp hbehind
        rw [opensFormat_stripDefinitions]
        exact h v rfl
      · exact ih u hu
  | block data rest hfree ih =>
      rw [stripDefinitions_block hfree]
      intro u hu
      -- the start of a format has no tilde
      rw [suffix_append_iff_of_not_mem (by simp [storeGraphic])
        (by simp [storeGraphic, formatStart])] at hu
      exact ih u hu

/-- From a bare document nothing is taken out. -/
theorem Bare.stripDefinitions_eq {t : Text} (h : Bare t) : stripDefinitions t = t :=
  replace_eq_self fun _ _ hsuffix => definitionsBeforeFormat_eq_none_iff.mpr fun v hv =>
    h v (hv ▸ hsuffix)

/--
**Definitions before the first format are taken out as one block.**

In front of them there may be store commands that stayed, as a format ends behind them. The
definitions that are put in stand behind that end, so they change nothing for those commands.
-/
theorem stripDefinitions_insert {before data behind : Text}
    (hbare : Bare (before ++ (formatStart ++ behind))) (hfirst : ¬ formatStart <:+: before)
    (hfree : FormatFree data) :
    stripDefinitions (before ++ (storeGraphic ++ (data ++ (formatStart ++ behind)))) =
      before ++ (formatStart ++ behind) := by
  have hbehind : Bare behind := hbare.of_suffix ⟨before ++ formatStart, by simp⟩
  have hkept : ∀ u, u ≠ [] → u <:+ before →
      definitionsBeforeFormat (u ++ (storeGraphic ++ (data ++ (formatStart ++ behind)))) =
        none := by
    intro u hu hsuffix
    refine definitionsBeforeFormat_eq_none_iff.mpr fun v hv => ?_
    have hpre : storeGraphic <+: u ++ (storeGraphic ++ (data ++ (formatStart ++ behind))) :=
      ⟨v, hv.symm⟩
    rw [prefix_append_iff_of_head hu (by simp [storeGraphic])] at hpre
    obtain ⟨w, rfl⟩ := hpre
    rw [List.append_assoc, List.append_right_inj] at hv
    obtain ⟨front, rfl⟩ := hsuffix
    -- the command stayed when the block was not there, so a format ends behind it
    have hclosed := hbare (w ++ (formatStart ++ behind)) ⟨front, by simp⟩
    have hw : w <:+: front ++ (storeGraphic ++ w) :=
      ((List.suffix_append _ w).trans (List.suffix_append front _)).isInfix
    have hstart : ¬ formatStart <:+: w := fun h => hfirst (h.trans hw)
    have hend : formatEnd <:+: w := by
      by_contra hno
      rw [opensFormat_iff.mpr ⟨w, behind, rfl, hstart, hno⟩] at hclosed
      exact absurd hclosed (by simp)
    rw [← hv]
    exact not_opensFormat_append hend hstart (by simp [storeGraphic, formatStart])
  rw [stripDefinitions, replace_append_of_none hkept, ← stripDefinitions,
    stripDefinitions_block hfree, hbehind.stripDefinitions_eq]

end LabelTemplate.Cleaning
