import LabelTemplate.Proofs.Compilation.Content

/-!
# The names of appended definitions

The graphics of a source are to be called by the name that the user chose for it. Renaming takes one
name from each block, the first; so the question is whether a block is one definition. It is more
than one if no format start stands between two store commands, and less than one if a format start
stands inside a name (`OneDefinition`).

The name that was chosen has no store command in it, so the store commands of a renamed block are the
one in front of the new name and those of the data. Neither they nor the names behind them reach over
the end of a block: two line feeds come there, and behind these the next store command or nothing.
-/

namespace LabelTemplate.Compilation

open Text Command

/-! ## Specification -/

/-- Every store command of a text is directly followed by a name and a comma. -/
def EachNamed (t : Text) : Prop :=
  ∀ behind, storeGraphic ++ behind <:+ t →
    ∃ old data, behind = old ++ ',' :: data ∧ old ≠ [] ∧ ',' ∉ old

/--
Every store command of the first text is directly followed by these characters, which may go over
into the second text.
-/
def EachFollowedBy (p t rest : Text) : Prop :=
  ∀ behind, storeGraphic ++ behind <:+ t → p <+: behind ++ rest

/-- In what is appended, every store command is followed by the name for its source and a comma. -/
inductive NamedBySource : List Source → Text → Prop
  /-- Nothing is appended for no source. -/
  | nil : NamedBySource [] []
  /-- What is appended for the first source, and then for the others. -/
  | source {s : Source} {sources : List Source} {part rest : Text} (hpart : Appended [s] part)
    (hnames : EachFollowedBy (s.imageName.trim ++ [',']) part rest)
    (hrest : NamedBySource sources rest) : NamedBySource (s :: sources) (part ++ rest)

/--
A block that is one definition: the comma behind the name is in it, and a further store command has
the new name already.
-/
def OneDefinition (name block : Text) : Prop :=
  ∃ old data, block = storeGraphic ++ (old ++ ',' :: data) ∧ (old ≠ [] ∧ ',' ∉ old) ∧
    EachFollowedBy (name ++ [',']) data []

variable {p t u rest name : Text}

theorem forall_suffix_iff {P : Text → Prop} :
    (∀ behind, storeGraphic ++ behind <:+ t → P behind) ↔
      ∀ u ∈ t.tails, storeGraphic <+: u → P (u.drop storeGraphic.length) := by
  constructor
  · rintro h u hu ⟨behind, rfl⟩
    rw [List.drop_left]
    exact h behind ((List.mem_tails _ _).mp hu)
  · intro h behind hsuffix
    have hhere := h _ ((List.mem_tails _ _).mpr hsuffix) (List.prefix_append storeGraphic behind)
    rwa [List.drop_left] at hhere

/-- A name and a comma come first just if there is a comma, and not at once. -/
theorem exists_name_iff :
    (∃ old data, t = old ++ ',' :: data ∧ old ≠ [] ∧ ',' ∉ old) ↔ ',' ∈ t ∧ t.head? ≠ some ',' := by
  constructor
  · rintro ⟨old, data, rfl, hne, hold⟩
    obtain ⟨c, old, rfl⟩ := List.exists_cons_of_ne_nil hne
    refine ⟨by simp, fun hhead => hold ?_⟩
    rw [← Option.some.inj hhead]
    exact List.mem_cons_self
  · rintro ⟨hcomma, hhead⟩
    obtain ⟨old, data, rfl, hold⟩ := List.eq_append_cons_of_mem hcomma
    refine ⟨old, data, rfl, ?_, hold⟩
    rintro rfl
    exact hhead rfl

instance : Decidable (EachNamed t) :=
  decidable_of_iff (∀ u ∈ t.tails, storeGraphic <+: u → ',' ∈ u.drop storeGraphic.length ∧
      (u.drop storeGraphic.length).head? ≠ some ',') <| by
    simp only [EachNamed, exists_name_iff, forall_suffix_iff]

instance : Decidable (EachFollowedBy p t rest) :=
  decidable_of_iff (∀ u ∈ t.tails, storeGraphic <+: u → p <+: u.drop storeGraphic.length ++ rest)
    (forall_suffix_iff (P := fun behind => p <+: behind ++ rest)).symm

/-! ## Store commands of a text that is cut -/

theorem eachFollowedBy_of_absent (h : ¬ storeGraphic <:+: t) : EachFollowedBy p t rest :=
  fun behind hsuffix => absurd
    ((List.prefix_append storeGraphic behind).isInfix.trans hsuffix.isInfix) h

/-- A store command stands in front of a place or behind it, if no `D` or `G` stands there. -/
theorem eachFollowedBy_append (hu : ∀ c ∈ u.head?, c ∉ storeGraphic.tail) :
    EachFollowedBy p (t ++ u) rest ↔
      EachFollowedBy p t (u ++ rest) ∧ EachFollowedBy p u rest := by
  constructor
  · intro h
    refine ⟨fun behind hsuffix => ?_, fun behind hsuffix =>
      h behind (hsuffix.trans (List.suffix_append t u))⟩
    have hwhole := h (behind ++ u) (by
      rw [← List.append_assoc]
      exact List.suffix_append_self_iff.mpr hsuffix)
    rwa [List.append_assoc] at hwhole
  · rintro ⟨ht, hu'⟩ behind ⟨before, heq⟩
    rcases List.append_eq_append_iff.mp heq with ⟨w, hw, hbehind⟩ | ⟨w, rfl, hw⟩
    · cases w with
      | nil => exact hu' behind ⟨[], by simpa using hbehind⟩
      | cons c w =>
          have hin : storeGraphic <+: (c :: w) ++ u := hbehind ▸ List.prefix_append _ _
          obtain ⟨v, hv⟩ := (prefix_append_iff_of_head (by simp) hu).mp hin
          rw [← hv, List.append_assoc, List.append_cancel_left_eq] at hbehind
          rw [hbehind, List.append_assoc]
          exact ht v ⟨before, by rw [hv, hw]⟩
    · exact hu' behind ⟨w, hw.symm⟩

/-- A character that begins no store command may be left out at the front. -/
theorem eachFollowedBy_cons {c : Char} (hc : c ≠ '~') :
    EachFollowedBy p (c :: t) rest ↔ EachFollowedBy p t rest := by
  refine ⟨fun h behind hsuffix => h behind (hsuffix.trans (List.suffix_cons c t)),
    fun h behind hsuffix => ?_⟩
  rcases List.suffix_cons_iff.mp hsuffix with heq | hsuffix
  · exact absurd (List.cons.inj heq).1.symm hc
  · exact h behind hsuffix

/-! ## A definition under its new name -/

/-- The store command in front of a new name is the only one there. -/
theorem eachFollowedBy_renamed (hname : ¬ storeGraphic <:+: name) :
    EachFollowedBy (name ++ [',']) (storeGraphic ++ (name ++ ',' :: t)) rest ↔
      EachFollowedBy (name ++ [',']) t rest := by
  rw [← List.append_assoc, eachFollowedBy_append (by simp [storeGraphic]),
    eachFollowedBy_cons (by decide)]
  refine and_iff_right fun behind hsuffix => ?_
  rcases List.suffix_cons_iff.mp hsuffix with heq | hsuffix
  · obtain rfl : behind = name := (List.append_right_inj storeGraphic).mp heq
    simp
  · -- behind the tilde no store command begins
    have hin : storeGraphic <:+: ['D', 'G'] ++ name :=
      (List.prefix_append storeGraphic behind).isInfix.trans hsuffix.isInfix
    rw [infix_append_iff_of_not_mem (by decide) (by simp [storeGraphic])] at hin
    exact absurd hin hname

/-- The first comma behind a block is behind the next store command. -/
theorem comma_notMem_of_heads (hrest : rest = [] ∨ storeGraphic <+: rest)
    (hheads : t <+: '\n' :: '\n' :: rest) (hno : ¬ storeGraphic <:+: t) : ',' ∉ t := by
  rcases hrest with rfl | ⟨behind, rfl⟩
  · exact fun hcomma => absurd (hheads.subset hcomma) (by decide)
  · have hnext : ['\n', '\n'] ++ storeGraphic <+: '\n' :: '\n' :: (storeGraphic ++ behind) :=
      List.prefix_append (['\n', '\n'] ++ storeGraphic) behind
    rcases List.prefix_or_prefix_of_prefix hheads hnext with hin | hin
    · exact fun hcomma => absurd (hin.subset hcomma) (by decide)
    · exact absurd ((List.suffix_append ['\n', '\n'] storeGraphic).isInfix.trans hin.isInfix) hno

/-- A name does not reach over the end of a block, and trimming the block does not shorten it. -/
theorem prefix_trimEnd_append_iff (hname : ¬ storeGraphic <:+: name)
    (hrest : rest = [] ∨ storeGraphic <+: rest) :
    name ++ [','] <+: trimEnd t ++ '\n' :: '\n' :: rest ↔ name ++ [','] <+: t := by
  constructor
  · intro h
    rcases List.prefix_or_prefix_of_prefix h (List.prefix_append (trimEnd t) _) with hin | ⟨v, hv⟩
    · exact hin.trans (trimEnd_isPrefix t)
    · rw [← hv, List.prefix_append_right_inj] at h
      rcases List.suffix_concat_iff.mp ⟨trimEnd t, hv⟩ with rfl | ⟨w, rfl, hw⟩
      · rw [← hv, List.append_nil]
        exact trimEnd_isPrefix t
      · refine absurd ?_ (comma_notMem_of_heads hrest h fun hin => hname ?_)
        · simp
        · rw [infix_append_iff_of_head (by decide) (by simp [storeGraphic])] at hin
          rcases hin with hin | hin
          · exact hin.trans hw.isInfix
          · exact absurd hin (by decide)
  · rintro ⟨data, rfl⟩
    rw [List.append_assoc, List.singleton_append, trimEnd_append_cons (by decide)]
    exact ⟨trimEnd data ++ '\n' :: '\n' :: rest, by simp⟩

theorem eachFollowedBy_trimEnd_iff (hname : ¬ storeGraphic <:+: name)
    (hrest : rest = [] ∨ storeGraphic <+: rest) :
    EachFollowedBy (name ++ [',']) (trimEnd t) ('\n' :: '\n' :: rest) ↔
      EachFollowedBy (name ++ [',']) t [] := by
  have htrim : ∀ before behind : Text, trimEnd (before ++ (storeGraphic ++ behind)) =
      before ++ (storeGraphic ++ trimEnd behind) := by
    intro before behind
    have hsplit : before ++ (storeGraphic ++ behind) = (before ++ ['~', 'D']) ++ 'G' :: behind := by
      simp [storeGraphic]
    rw [hsplit, trimEnd_append_cons (by decide)]
    simp [storeGraphic]
  constructor
  · rintro h behind ⟨before, rfl⟩
    rw [htrim] at h
    rw [List.append_nil]
    exact (prefix_trimEnd_append_iff hname hrest).mp (h (trimEnd behind) ⟨before, rfl⟩)
  · rintro h behind ⟨before, heq⟩
    obtain ⟨gap, hgap⟩ := trimEnd_isPrefix t
    rw [← heq, List.append_assoc, List.append_assoc] at hgap
    have hbehind : trimEnd (behind ++ gap) = behind := by
      rw [← hgap, htrim, List.append_cancel_left_eq, List.append_cancel_left_eq] at heq
      exact heq.symm
    have hfollowed := h (behind ++ gap) ⟨before, hgap⟩
    rw [List.append_nil, ← prefix_trimEnd_append_iff hname hrest, hbehind] at hfollowed
    exact hfollowed

/-! ## What becomes of a block -/

/-- A renamed block begins with a store command as the block does. -/
theorem Renamed.begins_with_storeGraphic (h : Renamed name t u) (ht : storeGraphic <+: t) :
    storeGraphic <+: u := by
  cases h with
  | none => exact ht
  | @first before old rest _ _ _ =>
      cases before with
      | nil => exact List.prefix_append storeGraphic _
      | cons c before =>
          rw [prefix_append_iff_of_head (by simp) (by simp [storeGraphic])] at ht
          exact ht.trans (List.prefix_append _ _)

theorem trim_storeGraphic_append (body : Text) :
    trim (storeGraphic ++ body) = storeGraphic ++ trimEnd body :=
  (trim_cons (by decide) _).trans (trimEnd_append_cons (by decide) ['~', 'D'] body)

/-- A text that is not blank begins with a character that is no blank when it is trimmed. -/
theorem exists_trim_eq_cons (h : t.blank = false) : ∃ c cs, trim t = c :: cs ∧ isBlank c = false := by
  have htrim : trim t = trimEnd (trimStart t) := rfl
  cases hstart : trimStart t with
  | nil =>
      rw [blank, htrim, hstart] at h
      exact absurd h (by decide)
  | cons c cs =>
      have hc : isBlank c = false := Statement.head?_dropWhile_not c (by
        rw [← trimStart, hstart]
        rfl)
      exact ⟨c, trimEnd cs, by rw [htrim, hstart, trimEnd_cons hc], hc⟩

/-- A block without a comma gets no comma. -/
theorem renameFirst_of_no_comma (name : Text) {body : Text} (hbody : ',' ∉ body) :
    ∃ kept, renameFirst name (storeGraphic ++ body) = storeGraphic ++ kept ∧
      (kept = [] ∨ kept = name) := by
  cases body with
  | nil =>
      refine ⟨[], renameFirst_eq_iff.mpr (.none fun u _ hsuffix => ?_), .inl rfl⟩
      rintro ⟨c, behind, rfl, _⟩
      exact absurd hsuffix.length_le (by simp [storeGraphic])
  | cons c body =>
      have hrenamed : renameFirst name (storeGraphic ++ (c :: body ++ [])) =
          storeGraphic ++ (name ++ []) := renameFirst_of_name ⟨by simp, hbody⟩ (by simp)
      exact ⟨name, by simpa using hrenamed, .inr rfl⟩

/-- **A renamed block has the new name everywhere just if the block is one definition.** -/
theorem eachFollowedBy_renameFirst_iff {body : Text} (hfree : ¬ storeGraphic <:+: name)
    (hname : ∃ c cs, name = c :: cs ∧ isBlank c = false) (hbody : ∀ c ∈ body.head?, c ≠ ',')
    (hrest : rest = [] ∨ storeGraphic <+: rest) :
    EachFollowedBy (name ++ [',']) (renameFirst name (trim (storeGraphic ++ body)))
        ('\n' :: '\n' :: rest) ↔ OneDefinition name (storeGraphic ++ body) := by
  by_cases hcomma : ',' ∈ body
  · obtain ⟨old, data, rfl, hold⟩ := List.eq_append_cons_of_mem hcomma
    have hne : old ≠ [] := by
      rintro rfl
      exact hbody ',' rfl rfl
    rw [renameFirst_eq_iff.mpr ((renamed_trim_iff ⟨hne, hold⟩).mpr rfl),
      eachFollowedBy_renamed hfree, eachFollowedBy_trimEnd_iff hfree hrest]
    refine ⟨fun h => ⟨old, data, rfl, ⟨hne, hold⟩, h⟩, ?_⟩
    rintro ⟨old', data', heq, ⟨_, hold'⟩, h⟩
    obtain ⟨_, rfl⟩ := append_cons_inj_of_not_mem hold hold' (List.append_cancel_left heq)
    exact h
  · refine iff_of_false (fun h => ?_) ?_
    · -- what is left of the block is no name, or the name without a comma
      obtain ⟨kept, hkept, hcases⟩ := renameFirst_of_no_comma name
        fun h => hcomma ((trimEnd_isPrefix body).subset h)
      rw [trim_storeGraphic_append, hkept] at h
      have hfollowed := h kept (List.suffix_refl _)
      rcases hcases with rfl | rfl
      · obtain ⟨c, cs, rfl, hblank⟩ := hname
        obtain rfl := (List.cons_prefix_cons.mp hfollowed).1
        exact absurd hblank (by decide)
      · rw [List.prefix_append_right_inj] at hfollowed
        exact absurd (List.cons_prefix_cons.mp hfollowed).1 (by decide)
    · rintro ⟨old, data, heq, _⟩
      rw [List.append_cancel_left_eq] at heq
      exact hcomma (by rw [heq]; simp)

/-! ## What is appended for the sources -/

/-- A block of a text is a store command and what follows it there. -/
theorem exists_suffix_of_mem_blocks {blocks : List Text} (h : Blocks t blocks) {b : Text}
    (hb : b ∈ blocks) :
    ∃ body behind, b = storeGraphic ++ body ∧ storeGraphic ++ (body ++ behind) <:+ t := by
  induction h with
  | none => exact absurd hb List.not_mem_nil
  | @block gap body behind blocks _ _ _ ih =>
      rcases List.mem_cons.mp hb with rfl | hb
      · exact ⟨body, behind, rfl, List.suffix_append gap _⟩
      · obtain ⟨body', behind', rfl, hsuffix⟩ := ih hb
        refine ⟨body', behind', rfl, hsuffix.trans ?_⟩
        rw [← List.append_assoc, ← List.append_assoc]
        exact List.suffix_append _ behind

theorem EachNamed.exists_body (h : EachNamed t) {b : Text} (hb : b ∈ blocksOf t) :
    ∃ body, b = storeGraphic ++ body ∧ ∀ c ∈ body.head?, c ≠ ',' := by
  obtain ⟨body, behind, rfl, hsuffix⟩ := exists_suffix_of_mem_blocks (blocksOf_eq_iff.mp rfl) hb
  refine ⟨body, rfl, ?_⟩
  rintro c hc rfl
  obtain ⟨old, data, heq, hne, hold⟩ := h (body ++ behind) hsuffix
  obtain ⟨d, old, rfl⟩ := List.exists_cons_of_ne_nil hne
  cases body with
  | nil => exact nomatch hc
  | cons e body =>
      obtain rfl := Option.some.inj hc
      exact hold (by rw [(List.cons.inj heq).1]; exact List.mem_cons_self)

theorem begins_with_storeGraphic_renameFirst (name body : Text) :
    storeGraphic <+: renameFirst name (trim (storeGraphic ++ body)) := by
  refine (renameFirst_eq_iff.mp rfl).begins_with_storeGraphic ?_
  rw [trim_storeGraphic_append]
  exact List.prefix_append _ _

/-- Where something is appended, it begins with a store command. -/
theorem nil_or_prefix_of_renamed {renamed : List Text} (h : ∀ r ∈ renamed, storeGraphic <+: r)
    (hrest : rest = [] ∨ storeGraphic <+: rest) :
    renamed.flatMap (· ++ ['\n', '\n']) ++ rest = [] ∨
      storeGraphic <+: renamed.flatMap (· ++ ['\n', '\n']) ++ rest := by
  cases renamed with
  | nil => exact hrest
  | cons r renamed =>
      obtain ⟨behind, rfl⟩ := h r List.mem_cons_self
      exact .inr ⟨behind ++ ['\n', '\n'] ++ renamed.flatMap (· ++ ['\n', '\n']) ++ rest, by simp⟩

theorem eachFollowedBy_renamed_iff {blocks : List Text} (hfree : ¬ storeGraphic <:+: name)
    (hname : ∃ c cs, name = c :: cs ∧ isBlank c = false)
    (hblocks : ∀ b ∈ blocks, ∃ body, b = storeGraphic ++ body ∧ ∀ c ∈ body.head?, c ≠ ',')
    (hrest : rest = [] ∨ storeGraphic <+: rest) :
    EachFollowedBy (name ++ [','])
        ((blocks.map fun b => renameFirst name b.trim).flatMap (· ++ ['\n', '\n'])) rest ↔
      ∀ b ∈ blocks, OneDefinition name b := by
  induction blocks with
  | nil =>
      refine iff_of_true (eachFollowedBy_of_absent (by simp [storeGraphic])) fun b hb => ?_
      exact absurd hb List.not_mem_nil
  | cons b blocks ih =>
      rw [List.forall_mem_cons] at hblocks
      obtain ⟨⟨body, rfl, hbody⟩, hblocks⟩ := hblocks
      have hall : ∀ r ∈ blocks.map fun b => renameFirst name b.trim, storeGraphic <+: r := by
        intro r hr
        obtain ⟨b, hb, rfl⟩ := List.mem_map.mp hr
        obtain ⟨body, rfl, _⟩ := hblocks b hb
        exact begins_with_storeGraphic_renameFirst name body
      have hnext := nil_or_prefix_of_renamed hall hrest
      rw [List.map_cons, List.flatMap_cons, List.append_assoc, List.cons_append, List.cons_append,
        List.nil_append, eachFollowedBy_append (by simp [storeGraphic]),
        eachFollowedBy_cons (by decide), eachFollowedBy_cons (by decide), ih hblocks,
        List.forall_mem_cons]
      exact and_congr_left' (eachFollowedBy_renameFirst_iff hfree hname hbody hnext)

theorem appended_singleton_iff {s : Source} :
    Appended [s] t ↔ t = (renamedBlocks s).flatMap (· ++ ['\n', '\n']) := by
  rw [appended_iff, List.flatMap_singleton]

theorem nil_or_prefix_of_appended {sources : List Source}
    (hnamed : ∀ s ∈ sources, EachNamed s.content) (h : Appended sources t) :
    t = [] ∨ storeGraphic <+: t := by
  rw [appended_iff.mp h, ← List.append_nil (List.flatMap _ _)]
  refine nil_or_prefix_of_renamed (fun r hr => ?_) (.inl rfl)
  obtain ⟨s, hs, hr⟩ := List.mem_flatMap.mp hr
  obtain ⟨b, hb, rfl⟩ := List.mem_map.mp hr
  obtain ⟨body, rfl, _⟩ := (hnamed s hs).exists_body hb
  exact begins_with_storeGraphic_renameFirst _ body

theorem NamedBySource.appended {sources : List Source} (h : NamedBySource sources t) :
    Appended sources t := by
  induction h with
  | nil => exact .nil
  | @source s sources part rest hpart _ _ ih =>
      rw [appended_iff] at hpart ih ⊢
      rw [hpart, ih, ← List.flatMap_append, List.flatMap_singleton, List.flatMap_cons]

theorem namedBySource_iff {sources : List Source} (hnamed : ∀ s ∈ sources, EachNamed s.content)
    (hfree : ∀ s ∈ sources, ¬ storeGraphic <:+: s.imageName)
    (hname : ∀ s ∈ sources, s.imageName.blank = false) (h : Appended sources t) :
    NamedBySource sources t ↔
      ∀ s ∈ sources, ∀ b ∈ blocksOf s.content, OneDefinition s.imageName.trim b := by
  -- what is appended for one source, whatever comes behind it
  have hsource : ∀ s ∈ sources, ∀ {part rest : Text}, Appended [s] part →
      (rest = [] ∨ storeGraphic <+: rest) →
      (EachFollowedBy (s.imageName.trim ++ [',']) part rest ↔
        ∀ b ∈ blocksOf s.content, OneDefinition s.imageName.trim b) := by
    intro s hs part rest hpart hrest
    rw [appended_singleton_iff.mp hpart]
    exact eachFollowedBy_renamed_iff (fun hin => hfree s hs (hin.trans (trim_isInfix _)))
      (exists_trim_eq_cons (hname s hs)) (fun b hb => (hnamed s hs).exists_body hb) hrest
  induction sources generalizing t with
  | nil =>
      rw [appended_iff.mp h]
      exact iff_of_true .nil fun s hs => absurd hs List.not_mem_nil
  | cons s sources ih =>
      rw [List.forall_mem_cons] at hnamed hfree hname hsource
      rw [List.forall_mem_cons]
      constructor
      · intro hall
        cases hall with
        | source hpart hnames hrest =>
            have hbehind := nil_or_prefix_of_appended hnamed.2 hrest.appended
            exact ⟨(hsource.1 hpart hbehind).mp hnames,
              (ih hnamed.2 hfree.2 hname.2 hrest.appended hsource.2).mp hrest⟩
      · rintro ⟨hhere, hlater⟩
        have hpart : Appended [s] _ := appended_singleton_iff.mpr rfl
        have hrest : Appended sources _ := appended_iff.mpr rfl
        have hbehind := nil_or_prefix_of_appended hnamed.2 hrest
        rw [appended_iff.mp h, List.flatMap_cons, List.flatMap_append]
        exact .source hpart ((hsource.1 hpart hbehind).mpr hhere)
          ((ih hnamed.2 hfree.2 hname.2 hrest hsource.2).mpr hlater)

/--
**Every appended definition bears the name that was chosen just if every block is one definition.**

The store commands of the sources are followed by names. Only the first name of a block is replaced: a
definition behind another one, with no format start between them, keeps the name that it has in its
file. And where a format start stands inside a name, the block ends in it and no comma follows.
-/
theorem appended_names_iff {outputStart fileName template comment : Text} {sources : List Source}
    {file : Export} (hfile : compile outputStart fileName template sources comment = .ok file)
    (hnamed : ∀ s ∈ sources, EachNamed s.content)
    (hfree : ∀ s ∈ sources, ¬ storeGraphic <:+: s.imageName) :
    ∃ appended, Appended sources appended ∧
      file.content = template.trim ++ '\n' :: '\n' ::
        (banner comment ++ '\n' :: '\n' :: appended) ∧
      (NamedBySource sources appended ↔
        ∀ s ∈ sources, ∀ b ∈ blocksOf s.content, OneDefinition s.imageName.trim b) := by
  rw [compile] at hfile
  cases hcheck : check template sources comment with
  | some e =>
      rw [hcheck] at hfile
      cases hfile
  | none =>
      rw [hcheck] at hfile
      obtain rfl := Except.ok.inj hfile
      have hcomplete := check_eq_none_iff.mp hcheck
      have hname : ∀ s ∈ sources, s.imageName.blank = false := fun s hs => by
        rw [Bool.eq_false_iff]
        exact fun hblank => hcomplete (.inr (.inr (.inr ⟨s, hs, hblank⟩)))
      have happended : Appended sources _ := appended_iff.mpr rfl
      exact ⟨_, happended, text_eq template sources comment,
        namedBySource_iff hnamed hfree hname happended⟩

/--
Two sources: in one every definition has a format behind it, in the other the second definition has
the new name already.
-/
theorem appended_names_iff_of_repeated_name :
    let first : Source :=
      { content := "~DGA,1,1,00\n^XA^XZ~DGB,1,1,11\n^XA^XZ".toList, imageName := " X ".toList }
    let second : Source := { content := "~DGA,1,1,22\n~DGY,1,1,33\n".toList, imageName := ['Y'] }
    ∃ file appended, compile [] ['t'] "^XA^XZ".toList [first, second] ['c'] = .ok file ∧
      (∀ s ∈ [first, second], EachNamed s.content) ∧
      (∀ s ∈ [first, second], ¬ storeGraphic <:+: s.imageName) ∧
      Appended [first, second] appended ∧ NamedBySource [first, second] appended := by
  intro first second
  have hnamed : ∀ s ∈ [first, second], EachNamed s.content := by decide
  have hfree : ∀ s ∈ [first, second], ¬ storeGraphic <:+: s.imageName := by decide
  obtain ⟨appended, happended, _, hiff⟩ :=
    appended_names_iff (rfl : compile [] ['t'] "^XA^XZ".toList [first, second] ['c'] = .ok _)
      hnamed hfree
  have hfirst : blocksOf first.content = ["~DGA,1,1,00\n".toList, "~DGB,1,1,11\n".toList] := by
    decide
  have hsecond : blocksOf second.content = ["~DGA,1,1,22\n~DGY,1,1,33".toList] := by decide
  refine ⟨_, appended, rfl, hnamed, hfree, happended, hiff.mpr ?_⟩
  rw [List.forall_mem_cons, List.forall_mem_singleton, hfirst, hsecond, List.forall_mem_cons,
    List.forall_mem_singleton, List.forall_mem_singleton]
  exact ⟨⟨⟨['A'], "1,1,00\n".toList, by decide⟩, ⟨['B'], "1,1,11\n".toList, by decide⟩⟩,
    ⟨['A'], "1,1,22\n~DGY,1,1,33".toList, by decide⟩⟩

/-- A source defines two graphics before one format start: the second keeps its name. -/
theorem second_definition_keeps_its_name :
    let source : Source :=
      { content := "~DGA,1,1,00\n~DGB,1,1,11\n^XA^XZ".toList, imageName := ['X'] }
    EachNamed source.content ∧
      compile "UPDATED_".toList "a.prn".toList "^XA^XZ".toList [source] ['c'] = .ok
        { fileName := "UPDATED_a.prn".toList
          content := "^XA^XZ\n\n".toList ++ banner ['c'] ++
            "\n\n~DGX,1,1,00\n~DGB,1,1,11\n\n".toList } ∧
      ∀ appended, ¬ NamedBySource [source] appended := by
  intro source
  refine ⟨by decide, by decide, fun appended h => ?_⟩
  cases h with
  | source hpart hnames hrest =>
      cases hrest
      rw [appended_singleton_iff.mp hpart] at hnames
      exact absurd hnames (by decide)

end LabelTemplate.Compilation
