import LabelTemplate.Proofs.Compilation.Blocks
import LabelTemplate.Proofs.Text.Lines
import LabelTemplate.Proofs.Text.Trim
import Mathlib.Data.List.Forall2

/-!
# What a compiled file holds

`Appended` says what stands behind the banner: source by source and block by block, each block under
its new name and with an empty line behind it, and nothing else. What a block becomes is said by
`Renamed`, without a search: the first store command that a name follows directly has the new
name, and every other character is the one that the block has.

A name goes up to the first comma, so it is put in as it is: no character of it means anything
to the renaming.
-/

namespace LabelTemplate.Compilation

open Text Command

/-- A store command stands at the beginning of this text, and a name follows it. -/
def OpensNamed (t : Text) : Prop := ∃ c rest, t = storeGraphic ++ c :: rest ∧ c ≠ ','

/-- What a block becomes under a name. -/
inductive Renamed (name : Text) : Text → Text → Prop
  /-- The first name is replaced as a whole, up to the comma behind it. -/
  | first {before old rest : Text} (hold : old ≠ [] ∧ ',' ∉ old) (hrest : ∀ c ∈ rest.head?, c = ',')
    (hfirst : ∀ u, u ≠ [] → u <:+ before → ¬ OpensNamed (u ++ (storeGraphic ++ (old ++ rest)))) :
    Renamed name (before ++ (storeGraphic ++ (old ++ rest)))
      (before ++ (storeGraphic ++ (name ++ rest)))
  /-- There is no name in the block. -/
  | none {t : Text} (hnone : ∀ u, u ≠ [] → u <:+ t → ¬ OpensNamed u) : Renamed name t t

/-- What is appended for some sources. -/
inductive Appended : List Source → Text → Prop
  /-- Nothing for no source. -/
  | nil : Appended [] []
  /-- The blocks of a source under its name, and then those of the others. -/
  | source {s : Source} {sources : List Source} {blocks renamed : List Text} {rest : Text}
    (hblocks : Blocks s.content blocks)
    (hrenamed : List.Forall₂ (fun b r => Renamed s.imageName.trim b.trim r) blocks renamed)
    (hrest : Appended sources rest) :
    Appended (s :: sources) (renamed.flatMap (· ++ ['\n', '\n']) ++ rest)

/-- Something that has to be given is missing. -/
def Incomplete (template : Text) (sources : List Source) (comment : Text) : Prop :=
  template.blank = true ∨ sources = [] ∨ comment.blank = true ∨
    ∃ s ∈ sources, s.imageName.blank = true

/-! ## Renaming -/

theorem OpensNamed.exists_name {t : Text} (h : OpensNamed t) :
    ∃ old rest, t = storeGraphic ++ (old ++ rest) ∧ (old ≠ [] ∧ ',' ∉ old) ∧
      ∀ c ∈ rest.head?, c = ',' := by
  obtain ⟨c, rest, rfl, hc⟩ := h
  refine ⟨(c :: rest).takeWhile (· != ','), (c :: rest).dropWhile (· != ','),
    by rw [List.takeWhile_append_dropWhile], ⟨by simp [hc], fun hmem => ?_⟩,
    fun d hd => by simpa using Statement.head?_dropWhile_not d hd⟩
  exact absurd (Statement.of_mem_takeWhile _ hmem) (by decide)

theorem behindName?_of_name {old rest : Text} (hold : old ≠ [] ∧ ',' ∉ old)
    (hrest : ∀ c ∈ rest.head?, c = ',') :
    behindName? (storeGraphic ++ (old ++ rest)) = some rest := by
  obtain ⟨c, cs, rfl⟩ := List.exists_cons_of_ne_nil hold.1
  have hall : ∀ d ∈ c :: cs, (d != ',') = true := fun d hd =>
    bne_iff_ne.mpr fun heq => hold.2 (heq ▸ hd)
  have hdrop := (Statement.takeWhile_append_of_head rest hall fun d hd => by simp [hrest d hd]).2
  have hc : c ≠ ',' := bne_iff_ne.mp (hall c List.mem_cons_self)
  rw [behindName?, Statement.after?_eq_some_iff.mpr rfl, Option.bind_eq_bind, Option.bind_some]
  split
  · rename_i h
    exact absurd h (by simp)
  · rename_i h
    exact absurd (List.cons.inj h).1 hc
  · rw [hdrop]
    rfl

theorem behindName?_eq_none_iff {t : Text} : behindName? t = none ↔ ¬ OpensNamed t := by
  constructor
  · intro hnone hopens
    obtain ⟨old, rest, rfl, hold, hrest⟩ := hopens.exists_name
    rw [behindName?_of_name hold hrest] at hnone
    exact absurd hnone (by simp)
  · intro hno
    rw [behindName?]
    cases hbehind : Statement.after? storeGraphic t with
    | none => rfl
    | some behind =>
        obtain rfl := Statement.after?_eq_some_iff.mp hbehind
        rw [Option.bind_eq_bind, Option.bind_some]
        split
        · rfl
        · rfl
        · rename_i hne hname
          obtain ⟨c, cs, rfl⟩ := List.exists_cons_of_ne_nil hne
          exact absurd ⟨c, cs, rfl, fun heq => hname cs (by rw [heq])⟩ hno

variable {name : Text}

theorem renameFirst_append {before z : Text}
    (h : ∀ u, u ≠ [] → u <:+ before → behindName? (u ++ z) = none) :
    renameFirst name (before ++ z) = before ++ renameFirst name z := by
  induction before with
  | nil => rfl
  | cons c before ih =>
      have hhere : behindName? (c :: (before ++ z)) = none :=
        h (c :: before) (by simp) (List.suffix_refl _)
      rw [List.cons_append, renameFirst, hhere]
      dsimp only
      rw [ih fun u hu hsuffix => h u hu (hsuffix.trans (List.suffix_cons c before)),
        List.cons_append]

theorem renameFirst_of_name {old rest : Text} (hold : old ≠ [] ∧ ',' ∉ old)
    (hrest : ∀ c ∈ rest.head?, c = ',') :
    renameFirst name (storeGraphic ++ (old ++ rest)) = storeGraphic ++ (name ++ rest) := by
  have hbehind := behindName?_of_name hold hrest
  -- the text begins with a tilde, so it is looked at as a whole first
  obtain ⟨c, cs, hcons⟩ : ∃ c cs, storeGraphic ++ (old ++ rest) = c :: cs := ⟨_, _, rfl⟩
  rw [hcons] at hbehind ⊢
  rw [renameFirst, hbehind]
  exact List.append_assoc storeGraphic name rest

theorem renameFirst_of_renamed {t u : Text} (h : Renamed name t u) : renameFirst name t = u := by
  cases h with
  | @first before old rest hold hrest hfirst =>
      rw [renameFirst_append fun v hv hsuffix =>
        behindName?_eq_none_iff.mpr (hfirst v hv hsuffix), renameFirst_of_name hold hrest]
  | none hnone =>
      have hself : renameFirst name (t ++ []) = t ++ renameFirst name [] :=
        renameFirst_append fun v hv hsuffix => behindName?_eq_none_iff.mpr (by
          rw [List.append_nil]
          exact hnone v hv hsuffix)
      simpa [renameFirst] using hself

theorem exists_renamed (name t : Text) : ∃ u, Renamed name t u := by
  have hnil : ∀ {P : Text → Prop} (u : Text), u ≠ [] → u <:+ [] → P u :=
    fun u hu hsuffix => absurd (List.suffix_nil.mp hsuffix) hu
  induction t with
  | nil => exact ⟨[], .none hnil⟩
  | cons c cs ih =>
      by_cases hopens : OpensNamed (c :: cs)
      · obtain ⟨old, rest, heq, hold, hrest⟩ := hopens.exists_name
        rw [heq]
        exact ⟨_, @Renamed.first name [] old rest hold hrest hnil⟩
      · obtain ⟨u, hu⟩ := ih
        cases hu with
        | @first before old rest hold hrest hfirst =>
            refine ⟨_, @Renamed.first name (c :: before) old rest hold hrest fun v hv hsuffix => ?_⟩
            rcases List.suffix_cons_iff.mp hsuffix with rfl | hsuffix
            · exact hopens
            · exact hfirst v hv hsuffix
        | none hnone =>
            refine ⟨_, .none fun v hv hsuffix => ?_⟩
            rcases List.suffix_cons_iff.mp hsuffix with rfl | hsuffix
            · exact hopens
            · exact hnone v hv hsuffix

theorem renameFirst_eq_iff {t u : Text} : renameFirst name t = u ↔ Renamed name t u := by
  refine ⟨?_, renameFirst_of_renamed⟩
  rintro rfl
  obtain ⟨u, hu⟩ := exists_renamed name t
  rwa [renameFirst_of_renamed hu]

/-- A block that begins with a name keeps its data, less the blanks behind them. -/
theorem renamed_trim_iff {old data u : Text} (hold : old ≠ [] ∧ ',' ∉ old) :
    Renamed name (storeGraphic ++ (old ++ ',' :: data)).trim u ↔
      u = storeGraphic ++ (name ++ ',' :: data.trimEnd) := by
  have htrim : (storeGraphic ++ (old ++ ',' :: data)).trim =
      storeGraphic ++ (old ++ ',' :: data.trimEnd) := by
    have hfirst : (storeGraphic ++ (old ++ ',' :: data)).trim =
        (storeGraphic ++ (old ++ ',' :: data)).trimEnd := trim_cons (by decide) _
    rw [hfirst, ← List.append_assoc, trimEnd_append_cons (by decide), List.append_assoc]
  have hcomma : ∀ c ∈ (',' :: data.trimEnd).head?, c = ',' := by simp
  rw [htrim, ← renameFirst_eq_iff, renameFirst_of_name hold hcomma]
  exact eq_comm

/-! ## The whole file -/

theorem check_eq_none_iff {template : Text} {sources : List Source} {comment : Text} :
    check template sources comment = none ↔ ¬ Incomplete template sources comment := by
  unfold check Incomplete
  split
  · simp_all
  · split
    · simp_all
    · split
      · simp_all
      · split <;> simp_all

theorem forall₂_renamed_iff {blocks renamed : List Text} :
    List.Forall₂ (fun b r => Renamed name b.trim r) blocks renamed ↔
      renamed = blocks.map fun b => renameFirst name b.trim := by
  constructor
  · intro h
    induction h with
    | nil => rfl
    | cons hhere _ ih => rw [List.map_cons, ih, renameFirst_eq_iff.mpr hhere]
  · rintro rfl
    exact List.forall₂_map_right_iff.mpr
      (List.forall₂_same.mpr fun _ _ => renameFirst_eq_iff.mp rfl)

/-- What is appended is determined by the sources. -/
theorem appended_iff {sources : List Source} {t : Text} :
    Appended sources t ↔ t = (sources.flatMap renamedBlocks).flatMap (· ++ ['\n', '\n']) := by
  constructor
  · intro h
    induction h with
    | nil => rfl
    | source hblocks hrenamed _ ih =>
        rw [List.flatMap_cons, List.flatMap_append, ih, forall₂_renamed_iff.mp hrenamed,
          ← blocksOf_eq_iff.mpr hblocks, renamedBlocks]
  · rintro rfl
    induction sources with
    | nil => exact .nil
    | cons s sources ih =>
        rw [List.flatMap_cons, List.flatMap_append]
        exact .source (blocksOf_eq_iff.mp rfl) (forall₂_renamed_iff.mpr rfl) ih

/-- Lines that end in an empty one each, as they stand behind a line feed. -/
theorem followed_flatMap (blocks : List Text) :
    '\n' :: (followed (blocks.flatMap fun b => [b, []]) ++ ['\n']) =
      '\n' :: '\n' :: blocks.flatMap (· ++ ['\n', '\n']) := by
  induction blocks with
  | nil => rfl
  | cons b blocks ih =>
      rw [List.flatMap_cons, List.flatMap_cons, followed_append, List.append_assoc b,
        List.cons_append, List.cons_append, List.nil_append, ← ih]
      simp

theorem text_eq (template : Text) (sources : List Source) (comment : Text) :
    text template sources comment =
      template.trim ++ '\n' :: '\n' :: (banner comment ++ '\n' :: '\n' ::
        (sources.flatMap renamedBlocks).flatMap (· ++ ['\n', '\n'])) := by
  rw [← followed_flatMap, text, List.cons_append, unlines_cons, followed_append]
  simp

/--
**A compiled file has the template, the banner and every block of the sources under its new
name.**

There is one just if nothing is missing that has to be given. The template and the comment are
trimmed. A block that begins with a name and a comma keeps its data to the last character that is
no blank, whatever characters the new name has.
-/
theorem compiled_file_carries_blocks (outputStart name template : Text) (sources : List Source)
    (comment : Text) :
    ((∃ e, compile outputStart name template sources comment = .error e) ↔
        Incomplete template sources comment) ∧
      (∀ file, compile outputStart name template sources comment = .ok file ↔
        ¬ Incomplete template sources comment ∧
          ∃ appended, Appended sources appended ∧ file =
            { fileName := outputStart ++ name
              content := template.trim ++ '\n' :: '\n' ::
                (List.replicate 27 '/' ++ ' ' :: comment.trim ++ ' ' :: List.replicate 27 '/' ++
                  '\n' :: '\n' :: appended) }) ∧
      ∀ imageName old data renamed : Text, old ≠ [] → ',' ∉ old →
        (Renamed imageName.trim (storeGraphic ++ (old ++ ',' :: data)).trim renamed ↔
          renamed = storeGraphic ++ (imageName.trim ++ ',' :: data.trimEnd)) := by
  refine ⟨?_, fun file => ?_, fun imageName old data renamed hne hold =>
    renamed_trim_iff ⟨hne, hold⟩⟩
  · rw [← not_iff_not, ← check_eq_none_iff, compile]
    cases check template sources comment <;> simp
  · rw [← check_eq_none_iff, compile]
    cases check template sources comment with
    | some e => simp
    | none =>
        simp only [true_and, Except.ok.injEq, text_eq, banner, appended_iff, exists_eq_left]
        exact eq_comm

end LabelTemplate.Compilation
