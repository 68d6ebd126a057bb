import LabelTemplate.Compilation
import LabelTemplate.Proofs.Scan.Rewriting
import LabelTemplate.Proofs.Statement.Grammar
import LabelTemplate.Proofs.Text.Occurrence

/-!
# The blocks of a file

The blocks of a file are found by a scan. `Blocks` says which they are without one: the first
store command begins a block, the block has an end of its own (`EndsBefore`), and the next one is
looked for behind that end. A block ends at a caret or at the very end of the file, and a store
command starts with a tilde that is not in it again; so neither a command that ends a block nor a
store command can stand across a border.
-/

namespace LabelTemplate.Compilation

open Text Command Scan

/--
A block with this text behind its store command ends before that text: at the next format
start or, if there is none, at the end of the file less a final line feed.
-/
inductive EndsBefore : Text → Text → Prop
  /-- The next format start ends the block. -/
  | format {body rest : Text} (hrest : formatStart <+: rest) (hbody : ¬ formatStart <:+: body) :
    EndsBefore body rest
  /-- No format starts, and a line feed is the last character. -/
  | lineFeed {body : Text} (hbody : ¬ formatStart <:+: body) : EndsBefore body ['\n']
  /-- No format starts, and the last character is no line feed. -/
  | file {body : Text} (hbody : ¬ formatStart <:+: body) (hlast : '\n' ∉ body.getLast?) :
    EndsBefore body []

/-- The blocks of a text: each begins at the first store command behind the one before. -/
inductive Blocks : Text → List Text → Prop
  /-- There is no store command any more. -/
  | none {rest : Text} (hrest : ¬ storeGraphic <:+: rest) : Blocks rest []
  /-- The first store command begins a block. -/
  | block {gap body rest : Text} {blocks : List Text} (hgap : ¬ storeGraphic <:+: gap)
    (hends : EndsBefore body rest) (hrest : Blocks rest blocks) :
    Blocks (gap ++ (storeGraphic ++ (body ++ rest))) ((storeGraphic ++ body) :: blocks)

/-! ## Where a block ends -/

/-- A format start that begins before a line feed ends before it. -/
theorem formatStart_prefix_append_lineFeed {u : Text} (hu : u ≠ []) :
    formatStart <+: u ++ ['\n'] ↔ formatStart <+: u :=
  prefix_append_iff_of_head hu fun c hc => by obtain rfl := Option.some.inj hc; decide

theorem atBlockEnd_iff {t : Text} : atBlockEnd t = true ↔ formatStart <+: t ∨ t = ['\n'] := by
  rw [atBlockEnd, Bool.or_eq_true, List.isPrefixOf_iff_prefix, beq_iff_eq]

theorem atBlockEnd_eq_false_iff {t : Text} :
    atBlockEnd t = false ↔ ¬ formatStart <+: t ∧ t ≠ ['\n'] := by
  rw [Bool.eq_false_iff, ne_eq, atBlockEnd_iff, not_or]

/-- What occurs in a text begins one of the suffixes. -/
theorem not_infix_iff {p t : Text} (hp : p ≠ []) :
    ¬ p <:+: t ↔ ∀ u, u ≠ [] → u <:+ t → ¬ p <+: u := by
  constructor
  · exact fun h u _ hsuffix hpre => h (hpre.isInfix.trans hsuffix.isInfix)
  · rintro h ⟨before, behind, rfl⟩
    exact h (p ++ behind) (by simp [hp]) ⟨before, by simp⟩ (List.prefix_append p behind)

/-- **A block is cut off at its end.** -/
theorem splitBefore_atBlockEnd_iff {t body rest : Text} :
    splitBefore atBlockEnd t = (body, rest) ↔ t = body ++ rest ∧ EndsBefore body rest := by
  have hne : formatStart ≠ [] := isCommand_formatStart.ne_nil
  rw [splitBefore_eq_iff]
  refine and_congr_right fun _ => ⟨?_, ?_⟩
  · rintro ⟨hbefore, hhere⟩
    have hformat : ∀ u, u ≠ [] → u <:+ body → ¬ formatStart <+: u := fun u hu hsuffix hpre =>
      (atBlockEnd_eq_false_iff.mp (hbefore u hu hsuffix)).1 (hpre.trans (List.prefix_append u rest))
    rw [← not_infix_iff hne] at hformat
    cases rest with
    | nil =>
        refine .file hformat fun hlast => ?_
        -- a line feed at the end would have been the end
        have hfeed := hbefore ['\n'] (by simp)
          (List.singleton_suffix_iff_getLast?_eq_some.mpr hlast)
        exact (atBlockEnd_eq_false_iff.mp hfeed).2 rfl
    | cons c rest =>
        rcases atBlockEnd_iff.mp (hhere (by simp)) with hpre | hfeed
        · exact .format hpre hformat
        · rw [hfeed]
          exact .lineFeed hformat
  · intro hends
    cases hends with
    | format hrest hbody =>
        obtain ⟨behind, rfl⟩ := hrest
        have hcaret := isCommand_formatStart.atCaret behind
        refine ⟨fun u hu hsuffix => atBlockEnd_eq_false_iff.mpr ⟨?_, fun hfeed => ?_⟩, fun _ => ?_⟩
        · rw [isCommand_formatStart.prefix_append_iff hu hcaret]
          exact (not_infix_iff hne).mp hbody u hu hsuffix
        · have hmem : '^' ∈ u ++ (formatStart ++ behind) := List.mem_append_right u hcaret.mem
          rw [hfeed] at hmem
          exact absurd hmem (by decide)
        · exact atBlockEnd_iff.mpr (.inl (List.prefix_append formatStart behind))
    | lineFeed hbody =>
        refine ⟨fun u hu hsuffix => atBlockEnd_eq_false_iff.mpr ⟨?_, fun hfeed => ?_⟩,
          fun _ => by decide⟩
        · rw [formatStart_prefix_append_lineFeed hu]
          exact (not_infix_iff hne).mp hbody u hu hsuffix
        · exact hu (List.append_left_eq_self.mp hfeed)
    | file hbody hlast =>
        refine ⟨fun u hu hsuffix => ?_, fun h => absurd rfl h⟩
        rw [List.append_nil]
        refine atBlockEnd_eq_false_iff.mpr ⟨(not_infix_iff hne).mp hbody u hu hsuffix, ?_⟩
        rintro rfl
        exact hlast (List.singleton_suffix_iff_getLast?_eq_some.mp hsuffix)

/-! ## The scan for blocks -/

theorem block_eq_some_iff {t found : Text} {n : Nat} :
    block t = some (found, n) ↔
      ∃ body rest, t = storeGraphic ++ (body ++ rest) ∧ EndsBefore body rest ∧
        found = storeGraphic ++ body ∧ n = found.length := by
  constructor
  · intro h
    obtain ⟨behind, hbehind, h⟩ := Option.bind_eq_some_iff.mp h
    obtain ⟨body, rest, hsplit⟩ : ∃ body rest, splitBefore atBlockEnd behind = (body, rest) :=
      ⟨_, _, rfl⟩
    obtain ⟨rfl, hends⟩ := splitBefore_atBlockEnd_iff.mp hsplit
    rw [hsplit] at h
    obtain ⟨rfl, rfl⟩ := Prod.mk.inj (Option.some.inj h)
    exact ⟨body, rest, Statement.after?_eq_some_iff.mp hbehind, hends, rfl, rfl⟩
  · rintro ⟨body, rest, rfl, hends, rfl, rfl⟩
    have hsplit := splitBefore_atBlockEnd_iff.mpr ⟨rfl, hends⟩
    have hafter := Statement.after?_eq_some_iff.mpr (rfl : storeGraphic ++ (body ++ rest) = _)
    simp only [block, hafter, hsplit, Option.bind_eq_bind, Option.bind_some, Option.pure_def]

theorem block_eq_none_iff {t : Text} : block t = none ↔ ¬ storeGraphic <+: t := by
  rw [← Statement.after?_eq_none_iff, block]
  cases Statement.after? storeGraphic t <;> simp

theorem exact_block : Exact block := by
  intro t found n h
  obtain ⟨body, rest, rfl, _, rfl, rfl⟩ := block_eq_some_iff.mp h
  exact ⟨by simp [storeGraphic], by simp⟩

/-- Nothing is found in front of the first store command. -/
theorem found_block_append {gap : Text} (hgap : ¬ storeGraphic <:+: gap) (u : Text) :
    found block (gap ++ (storeGraphic ++ u)) = found block (storeGraphic ++ u) := by
  refine found_append_of_none fun v hv hsuffix => block_eq_none_iff.mpr fun hpre => ?_
  -- the tilde of the first store command is none of the later characters of another one
  have hhead : ∀ c ∈ (storeGraphic ++ u).head?, c ∉ storeGraphic.tail := by
    intro c hc
    obtain rfl := Option.some.inj hc
    decide
  exact hgap (((prefix_append_iff_of_head hv hhead).mp hpre).isInfix.trans hsuffix.isInfix)

theorem blocksOf_of_blocks {t : Text} {blocks : List Text} (h : Blocks t blocks) :
    blocksOf t = blocks := by
  induction h with
  | none hrest =>
      exact found_eq_nil fun u _ hsuffix => block_eq_none_iff.mpr fun hpre =>
        hrest (hpre.isInfix.trans hsuffix.isInfix)
  | @block gap body rest blocks hgap hends _ ih =>
      have hsome := block_eq_some_iff.mpr ⟨body, rest, rfl, hends, rfl, rfl⟩
      rw [blocksOf, found_block_append hgap, found_of_some exact_block hsome,
        ← List.append_assoc, List.drop_left, ← blocksOf, ih]

theorem exists_blocks (t : Text) : ∃ blocks, Blocks t blocks := by
  induction h : t.length using Nat.strongRecOn generalizing t with
  | ind n ih =>
    by_cases hfirst : storeGraphic <:+: t
    · obtain ⟨gap, behind, rfl, hgap⟩ := exists_first_of_infix (by decide) hfirst
      obtain ⟨body, rest, hsplit⟩ : ∃ body rest, splitBefore atBlockEnd behind = (body, rest) :=
        ⟨_, _, rfl⟩
      obtain ⟨rfl, hends⟩ := splitBefore_atBlockEnd_iff.mp hsplit
      obtain ⟨blocks, hblocks⟩ := ih rest.length (by simp [storeGraphic] at h; omega) rest rfl
      exact ⟨_, .block hgap hends hblocks⟩
    · exact ⟨[], .none hfirst⟩

/-- **The blocks of a file are what the scan finds.** -/
theorem blocksOf_eq_iff {t : Text} {blocks : List Text} :
    blocksOf t = blocks ↔ Blocks t blocks := by
  refine ⟨?_, blocksOf_of_blocks⟩
  rintro rfl
  obtain ⟨blocks, hblocks⟩ := exists_blocks t
  rwa [blocksOf_of_blocks hblocks]

end LabelTemplate.Compilation
