import LabelTemplate.Proofs.Definitions.Lookup
import LabelTemplate.Proofs.Definitions.Renaming

/-!
# The blocks of the stored graphics

Where the block of a name stands is said here by offsets into the captured text: it begins at the
first place where the name is opened, whatever the letter case, and goes up to the first command
behind the comma (`BlockAt`). That is what is looked up, and nothing is found only if the name is
opened nowhere.

Blocks of different names lie apart. The reason is the tilde: every block begins with one, and
neither a name nor the comma behind it is one in another case, so no block begins inside the opening
of another (`not_standsAt_inside_opening`), and inside its data none may begin.

The spelling of a name makes no difference, not even where several definitions differ in it alone:
the first one is found, and it is the one that is spelled as was asked for just if none in another
spelling stands in front of it.
-/

namespace LabelTemplate

open Text Command

namespace Text

/-! ## Places, whatever the letter case -/

/-- A text in which the letter case makes no difference. -/
def folded (t : Text) : Text := t.map foldCase

/-- The pattern stands at an offset of the text, in some letter case. -/
def StandsAt (p t : Text) (k : Nat) : Prop := folded p <+: (folded t).drop k

instance (p t : Text) (k : Nat) : Decidable (StandsAt p t k) :=
  inferInstanceAs (Decidable (folded p <+: (folded t).drop k))

@[simp] theorem length_folded (t : Text) : (folded t).length = t.length := List.length_map _

@[simp] theorem folded_append (t u : Text) : folded (t ++ u) = folded t ++ folded u :=
  List.map_append

theorem folded_drop (t : Text) (k : Nat) : folded (t.drop k) = (folded t).drop k := List.map_drop

theorem folded_take (t : Text) (k : Nat) : folded (t.take k) = (folded t).take k := List.map_take

theorem comma_mem_folded_iff {t : Text} : ',' ∈ folded t ↔ ',' ∈ t := by
  constructor
  · intro h
    obtain ⟨c, hc, hfold⟩ := List.mem_map.mp h
    exact eq_comma_of_foldCase_eq hfold ▸ hc
  · exact fun h => List.mem_map.mpr ⟨',', h, by decide⟩

theorem tilde_mem_folded_iff {t : Text} : '~' ∈ folded t ↔ '~' ∈ t := by
  constructor
  · intro h
    obtain ⟨c, hc, hfold⟩ := List.mem_map.mp h
    exact eq_tilde_of_foldCase_eq hfold ▸ hc
  · exact fun h => List.mem_map.mpr ⟨'~', h, by decide⟩

theorem startsWithFolded_iff {p t : Text} :
    startsWithFolded p t = true ↔ folded p <+: folded t := by
  induction p generalizing t with
  | nil => simp [startsWithFolded, folded]
  | cons c p ih =>
      cases t with
      | nil => simp [startsWithFolded, folded]
      | cons d t =>
          rw [startsWithFolded, Bool.and_eq_true, ih, sameLetter, beq_iff_eq]
          exact List.cons_prefix_cons.symm

theorem startsWithFolded_drop_iff {p t : Text} {k : Nat} :
    startsWithFolded p (t.drop k) = true ↔ StandsAt p t k := by
  rw [startsWithFolded_iff, folded_drop, StandsAt]

theorem StandsAt.add_length_le {p t : Text} {k : Nat} (h : StandsAt p t k) (hp : p ≠ []) :
    k + p.length ≤ t.length := by
  have hlength := h.length_le
  rw [List.length_drop, length_folded, length_folded] at hlength
  have hpositive := List.length_pos_iff.mpr hp
  omega

theorem standsAt_of_prefix {p t : Text} {k : Nat} (h : p <+: t.drop k) : StandsAt p t k := by
  rw [StandsAt, ← folded_drop]
  exact List.IsPrefix.map foldCase h

/-- A text is cut at the first offset from which something holds of what follows. -/
theorem exists_splitBefore_eq (p : Text → Bool) (t : Text) :
    ∃ k ≤ t.length, splitBefore p t = (t.take k, t.drop k) ∧
      (∀ j < k, p (t.drop j) = false) ∧ (k = t.length ∨ p (t.drop k) = true) := by
  obtain ⟨a, b, hsplit⟩ : ∃ a b, splitBefore p t = (a, b) := ⟨_, _, rfl⟩
  obtain ⟨rfl, hbefore, hat⟩ := splitBefore_eq_iff.mp hsplit
  refine ⟨a.length, by simp, by simpa using hsplit, fun j hj => ?_, ?_⟩
  · rw [List.drop_append_of_le_length (Nat.le_of_lt hj)]
    exact hbefore _ (by simpa using hj) (List.drop_suffix j a)
  · rw [List.drop_left]
    cases b with
    | nil => exact .inl (by simp)
    | cons c b => exact .inr (hat (by simp))

end Text

namespace Definitions

/-! ## Where a block stands -/

/-- What can be the name of a graphic: it is not empty, and no comma and no tilde is in it. -/
structure IsName (name : Text) : Prop where
  /-- There is a name. -/
  ne_nil : name ≠ []
  /-- The name goes up to the first comma. -/
  comma : ',' ∉ name
  /-- No other definition begins in the name. -/
  tilde : '~' ∉ name

/-- A definition or a format command begins at an offset, in some letter case. -/
def CommandAt (t : Text) (k : Nat) : Prop :=
  ∃ c ∈ [storeGraphic, formatStart, formatEnd], StandsAt c t k

/--
The block of a name: from the first place where the name is opened to the first command behind its
comma, or to the end.
-/
structure BlockAt (d : Definitions) (name : Text) (start stop : Nat) : Prop where
  /-- The name is opened where the block starts. -/
  opens : StandsAt (opening name) d.text start
  /-- It is opened nowhere before. -/
  first : ∀ k < start, ¬ StandsAt (opening name) d.text k
  /-- The block goes beyond the comma. -/
  behind : start + (opening name).length ≤ stop
  /-- The block is part of the text. -/
  within : stop ≤ d.text.length
  /-- No command begins in the data. -/
  unbroken : ∀ k, start + (opening name).length ≤ k → k < stop → ¬ CommandAt d.text k
  /-- The block goes up to a command or to the end. -/
  ends : stop = d.text.length ∨ CommandAt d.text stop

variable {d : Definitions} {name other : Text} {start stop start' stop' : Nat}

theorem atBlockEnd_drop_iff {t : Text} {k : Nat} :
    atBlockEnd (t.drop k) = true ↔ CommandAt t k := by
  simp [atBlockEnd, startsWithFolded_drop_iff, CommandAt, or_assoc]

/-- A block starts where its name is opened first; its data goes up to a command or to the end. -/
theorem exists_blockAt (hopens : StandsAt (opening name) d.text start)
    (hfirst : ∀ k < start, ¬ StandsAt (opening name) d.text k) :
    ∃ stop, BlockAt d name start stop ∧
      (splitBefore atBlockEnd (d.text.drop (start + (opening name).length))).1 =
        (d.text.drop (start + (opening name).length)).take
          (stop - (start + (opening name).length)) := by
  have hle := hopens.add_length_le (opening_ne_nil name)
  obtain ⟨length, hlength, hcut, hunbroken, hend⟩ :=
    exists_splitBefore_eq atBlockEnd (d.text.drop (start + (opening name).length))
  rw [List.length_drop] at hlength hend
  refine ⟨start + (opening name).length + length, ⟨hopens, hfirst, by omega, by omega,
    fun k hlow hhigh => ?_, ?_⟩, ?_⟩
  · have hno := hunbroken (k - (start + (opening name).length)) (by omega)
    rw [List.drop_drop, Nat.add_sub_cancel' hlow] at hno
    rw [← atBlockEnd_drop_iff, hno]
    simp
  · rcases hend with rfl | hend
    · exact .inl (by omega)
    · rw [List.drop_drop, atBlockEnd_drop_iff] at hend
      exact .inr hend
  · rw [hcut, Nat.add_sub_cancel_left]

/-- **What is looked up is the block of the name, and nothing if the name is opened nowhere.** -/
theorem lookup_cases (d : Definitions) (hname : name ≠ []) :
    (d.lookup name = [] ∧ ∀ k, ¬ StandsAt (opening name) d.text k) ∨
      ∃ start stop, BlockAt d name start stop ∧
        d.lookup name = (d.text.drop start).take (stop - start) := by
  have hpositive := List.length_pos_iff.mpr (opening_ne_nil name)
  obtain ⟨start, hstart, hsplit, hbefore, hat⟩ :=
    exists_splitBefore_eq (startsWithFolded (opening name)) d.text
  have hfirst : ∀ k < start, ¬ StandsAt (opening name) d.text k := by
    intro k hk
    rw [← startsWithFolded_drop_iff, hbefore k hk]
    simp
  rw [lookup, if_neg (by simpa using hname)]
  simp only [hsplit]
  rcases hat with rfl | hopens
  · refine .inl ⟨by simp, fun k hk => ?_⟩
    have hle := hk.add_length_le (opening_ne_nil name)
    exact hfirst k (by omega) hk
  · rw [startsWithFolded_drop_iff] at hopens
    have hle := hopens.add_length_le (opening_ne_nil name)
    obtain ⟨stop, hblock, hdata⟩ := exists_blockAt hopens hfirst
    -- the search came to a place in the text, so there is a character
    obtain ⟨c, rest, hfound⟩ : ∃ c rest, d.text.drop start = c :: rest :=
      List.exists_cons_of_ne_nil (by
        rw [ne_eq, List.drop_eq_nil_iff]
        omega)
    have hbehind := hblock.behind
    have hlength : stop - start =
        (opening name).length + (stop - (start + (opening name).length)) := by omega
    refine .inr ⟨start, stop, hblock, ?_⟩
    simp only [hfound]
    rw [← hfound, List.drop_drop, hdata, hlength, List.take_add, List.drop_drop]

/-- A block begins with the opening of its name, in some letter case. -/
theorem BlockAt.opens_cut (h : BlockAt d name start stop) :
    StandsAt (opening name) ((d.text.drop start).take (stop - start)) 0 := by
  have hbehind := h.behind
  rw [StandsAt, List.drop_zero, folded_take, folded_drop, List.prefix_take_iff]
  exact ⟨h.opens, by rw [length_folded]; omega⟩

/-! ## Blocks of different names -/

theorem folded_opening (name : Text) :
    folded (opening name) = folded storeGraphic ++ (folded name ++ [',']) := by
  rw [opening, folded_append, folded_append, List.append_assoc]
  rfl

/-- What is opened at a place is one name. -/
theorem folded_eq_of_standsAt {t : Text} {k : Nat} (hname : IsName name) (hother : IsName other)
    (h : StandsAt (opening name) t k) (h' : StandsAt (opening other) t k) :
    folded name = folded other := by
  obtain ⟨r, hr⟩ := h
  obtain ⟨r', hr'⟩ := h'
  rw [← hr', folded_opening, folded_opening, List.append_assoc,
    List.append_assoc (folded storeGraphic), List.append_right_inj, List.append_assoc,
    List.append_assoc] at hr
  exact (append_cons_inj_of_not_mem (comma_mem_folded_iff.not.mpr hname.comma)
    (comma_mem_folded_iff.not.mpr hother.comma) hr).1

/-- **No definition begins inside the opening of another.** -/
theorem not_standsAt_inside_opening {t : Text} {k n : Nat} (hname : IsName name)
    (h : StandsAt (opening name) t k) (hn : 0 < n) (hlt : n < (opening name).length) (p : Text) :
    ¬ StandsAt ('~' :: p) t (k + n) := by
  intro htilde
  obtain ⟨r, hr⟩ := h
  rw [StandsAt, ← List.drop_drop, ← hr, List.drop_append_of_le_length
    (by rw [length_folded]; exact Nat.le_of_lt hlt)] at htilde
  -- the character at that place is one of the opening, behind its first, and it is a tilde
  obtain ⟨c, rest, hrest⟩ : ∃ c rest, (folded (opening name)).drop n = c :: rest :=
    List.exists_cons_of_ne_nil (by
      rw [ne_eq, List.drop_eq_nil_iff, length_folded]
      omega)
  have hfold : foldCase '~' = '~' := by decide
  rw [hrest, List.cons_append, folded, List.map_cons, List.cons_prefix_cons, hfold] at htilde
  have hmem : '~' ∈ (folded (opening name)).drop 1 :=
    List.drop_subset_drop_left _ hn (by rw [hrest, htilde.1]; exact List.mem_cons_self)
  have hbehind : (folded (opening name)).drop 1 = folded (['D', 'G'] ++ name ++ [',']) := rfl
  rw [hbehind, tilde_mem_folded_iff] at hmem
  simp [hname.tilde] at hmem

/-- **Blocks of different names lie apart.** -/
theorem BlockAt.disjoint (hname : IsName name) (hother : IsName other)
    (hne : folded name ≠ folded other) (h : BlockAt d name start stop)
    (h' : BlockAt d other start' stop') : stop ≤ start' ∨ stop' ≤ start := by
  have hbefore : ∀ {name other : Text} {start stop start' stop' : Nat}, IsName name →
      BlockAt d name start stop → BlockAt d other start' stop' → start < start' →
      stop ≤ start' := by
    intro name other start stop start' stop' hname h h' hlt
    by_contra hover
    by_cases hinside : start' < start + (opening name).length
    · have hno := not_standsAt_inside_opening hname h.opens (n := start' - start) (by omega)
        (by omega) (['D', 'G'] ++ other ++ [','])
      rw [Nat.add_sub_cancel' (Nat.le_of_lt hlt)] at hno
      exact hno h'.opens
    · have hcommand : CommandAt d.text start' := by
        refine ⟨storeGraphic, by simp, List.IsPrefix.trans ?_ h'.opens⟩
        rw [folded_opening]
        exact List.prefix_append _ _
      exact h.unbroken start' (by omega) (by omega) hcommand
  rcases Nat.lt_trichotomy start start' with hlt | rfl | hlt
  · exact .inl (hbefore hname h h' hlt)
  · exact absurd (folded_eq_of_standsAt hname hother h.opens h'.opens) hne
  · exact .inr (hbefore hother h' h hlt)

/-- What is looked up is not opened by another name. -/
theorem not_standsAt_lookup (hname : IsName name) (hother : IsName other)
    (hne : folded name ≠ folded other) : ¬ StandsAt (opening other) (d.lookup name) 0 := by
  intro hstands
  rcases lookup_cases d hname.ne_nil with ⟨hnil, _⟩ | ⟨start, stop, hblock, heq⟩
  · rw [hnil] at hstands
    have hle := hstands.add_length_le (opening_ne_nil other)
    have hpositive := List.length_pos_iff.mpr (opening_ne_nil other)
    rw [List.length_nil] at hle
    omega
  · rw [heq] at hstands
    exact hne (folded_eq_of_standsAt hname hother hblock.opens_cut hstands)

/--
**What is looked up is a block, and each name has a block of its own.**

Nothing is found just if the name is opened nowhere. Otherwise it is the part of the text from the
first place where the name is opened up to the first command behind the comma, or to the end. Blocks
of names that differ in more than letter case have no place in common, and neither name finds a
block that the other opens, whether or not one is the beginning or the end of the other.
-/
theorem lookup_is_block (d : Definitions) {name : Text} (hname : IsName name) :
    (d.lookup name = [] ↔ ∀ k, ¬ StandsAt (opening name) d.text k) ∧
      (d.lookup name ≠ [] → ∃ start stop, BlockAt d name start stop ∧
        d.lookup name = (d.text.drop start).take (stop - start)) ∧
      ∀ other, IsName other → folded name ≠ folded other →
        (∀ start stop start' stop', BlockAt d name start stop → BlockAt d other start' stop' →
          stop ≤ start' ∨ stop' ≤ start) ∧
        ¬ StandsAt (opening other) (d.lookup name) 0 ∧
        ¬ StandsAt (opening name) (d.lookup other) 0 := by
  refine ⟨⟨fun hnil => ?_, fun hno => ?_⟩, fun hfound => ?_, fun other hother hne =>
    ⟨fun _ _ _ _ h h' => h.disjoint hname hother hne h', not_standsAt_lookup hname hother hne,
      not_standsAt_lookup hother hname hne.symm⟩⟩
  · rcases lookup_cases d hname.ne_nil with ⟨_, hno⟩ | ⟨start, stop, hblock, heq⟩
    · exact hno
    · have hle := hblock.opens_cut.add_length_le (opening_ne_nil name)
      have hpositive := List.length_pos_iff.mpr (opening_ne_nil name)
      rw [← heq, hnil, List.length_nil] at hle
      omega
  · rcases lookup_cases d hname.ne_nil with ⟨hnil, _⟩ | ⟨start, _, hblock, _⟩
    · exact hnil
    · exact absurd hblock.opens (hno start)
  · exact (lookup_cases d hname.ne_nil).resolve_left fun ⟨hnil, _⟩ => hfound hnil

/-- Two names in another case than they are stored in, one the beginning of the other. -/
theorem lookup_is_block_of_beginning :
    let d : Definitions := { text := "~dglogo2,22~DGlogo,1^xa~DGLOGO,3".toList }
    let name := "Logo".toList
    let other := "LOGO2".toList
    IsName name ∧ IsName other ∧ folded name ≠ folded other ∧
      d.lookup other = "~dglogo2,22".toList ∧ d.lookup name = "~DGlogo,1".toList ∧
      (∃ start stop, BlockAt d name start stop ∧
        d.lookup name = (d.text.drop start).take (stop - start)) ∧
      ¬ StandsAt (opening other) (d.lookup name) 0 := by
  intro d name other
  have hname : IsName name := ⟨by decide, by decide, by decide⟩
  have hother : IsName other := ⟨by decide, by decide, by decide⟩
  have hne : folded name ≠ folded other := by decide +kernel
  have hfound : d.lookup name = "~DGlogo,1".toList := by decide +kernel
  obtain ⟨_, hblock, hapart⟩ := lookup_is_block d hname
  exact ⟨hname, hother, hne, by decide +kernel, hfound,
    hblock (by rw [hfound]; exact List.cons_ne_nil _ _), (hapart other hother hne).2.1⟩

/-! ## Exact names -/

/--
**The definition that is found has the exact name just if it is the first one in any spelling.**

Then the name, as it is spelled, is opened somewhere, and nowhere before in another spelling.
-/
theorem lookup_is_exact_iff (d : Definitions) (name : Text) :
    opening name <+: d.lookup name ↔
      name ≠ [] ∧ ∃ k, opening name <+: d.text.drop k ∧
        ∀ j < k, ¬ StandsAt (opening name) d.text j := by
  constructor
  · intro h
    have hfound : d.lookup name ≠ [] := by
      intro hnil
      rw [hnil] at h
      exact opening_ne_nil name (List.prefix_nil.mp h)
    have hne : name ≠ [] := by
      rintro rfl
      exact hfound rfl
    obtain ⟨start, stop, hblock, heq⟩ :=
      (lookup_cases d hne).resolve_left fun ⟨hnil, _⟩ => hfound hnil
    rw [heq] at h
    exact ⟨hne, start, h.trans (List.take_prefix _ _), hblock.first⟩
  · rintro ⟨hne, k, hexact, hfirst⟩
    have hopens := standsAt_of_prefix hexact
    obtain ⟨start, stop, hblock, heq⟩ :=
      (lookup_cases d hne).resolve_left fun ⟨_, hno⟩ => hno k hopens
    have hsame : k = start := Nat.le_antisymm
      (Nat.le_of_not_lt fun hlt => hfirst start hlt hblock.opens)
      (Nat.le_of_not_lt fun hlt => hblock.first k hlt hopens)
    have hbehind := hblock.behind
    rw [heq, List.prefix_take_iff]
    exact ⟨hsame ▸ hexact, by omega⟩

/-- A definition in another spelling stands in front of the one with the exact name. -/
theorem lookup_passes_over_exact_name :
    ¬ ∀ (d : Definitions) (name : Text), IsName name → '^' ∉ name → opening name <:+: d.text →
      opening name <+: d.lookup name := by
  intro h
  have hexact := h { text := "~DGlogo,1\n~DGLOGO,2\n^XA".toList } "LOGO".toList
    ⟨by decide, by decide, by decide⟩ (by decide) (by decide +kernel)
  exact absurd hexact (by decide +kernel)

end Definitions

end LabelTemplate
