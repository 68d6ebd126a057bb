import LabelTemplate.Command
import Mathlib.Data.List.Infix

/-!
# Where commands occur in a text

A command is a caret and a name, and a name has no caret in it. So a caret is a
place at which a text can be cut: a command occurs on one side of the cut or on the
other, never across it. Everything that is said later about the reach of a
statement comes down to this, and to the two ways in which a first occurrence is
found, `cut?` and `splitBefore`.
-/

namespace LabelTemplate

namespace Text

/-- A caret and characters that are none. -/
def IsCommand (p : Text) : Prop := ∃ name, p = '^' :: name ∧ '^' ∉ name

/-- A text whose first character is a caret. -/
def AtCaret (t : Text) : Prop := ∃ u, t = '^' :: u

theorem IsCommand.atCaret {p : Text} (hp : IsCommand p) (r : Text) : AtCaret (p ++ r) := by
  obtain ⟨name, rfl, _⟩ := hp
  exact ⟨name ++ r, rfl⟩

theorem IsCommand.ne_nil {p : Text} (hp : IsCommand p) : p ≠ [] := by
  obtain ⟨name, rfl, _⟩ := hp
  simp

/-- A command with more characters that are no caret is again a command. -/
theorem IsCommand.append {p v : Text} (hp : IsCommand p) (hv : '^' ∉ v) : IsCommand (p ++ v) := by
  obtain ⟨name, rfl, hname⟩ := hp
  exact ⟨name ++ v, rfl, by simp [hname, hv]⟩

/-- What follows the first character of a command has no caret. -/
theorem IsCommand.not_mem_of_append {p a b : Text} (hp : IsCommand p) (he : p = a ++ b)
    (ha : a ≠ []) : '^' ∉ b := by
  obtain ⟨name, rfl, hname⟩ := hp
  cases a with
  | nil => exact absurd rfl ha
  | cons c cs =>
      injection he with _ he
      intro hb
      exact hname (he ▸ List.mem_append_right cs hb)

theorem AtCaret.mem {t : Text} (ht : AtCaret t) : '^' ∈ t := by
  obtain ⟨u, rfl⟩ := ht
  exact List.mem_cons_self

theorem AtCaret.append {t : Text} (ht : AtCaret t) (r : Text) : AtCaret (t ++ r) := by
  obtain ⟨u, rfl⟩ := ht
  exact ⟨u ++ r, rfl⟩

theorem AtCaret.of_prefix {t u : Text} (ht : AtCaret t) (h : u <+: t) (hu : u ≠ []) :
    AtCaret u := by
  obtain ⟨v, rfl⟩ := ht
  cases u with
  | nil => exact absurd rfl hu
  | cons c cs => rw [(List.cons_prefix_cons.mp h).1]; exact ⟨cs, rfl⟩

/-! ## Places to cut -/

/-- What begins before a place ends before it, if the next character is none of its later ones. -/
theorem prefix_append_iff_of_head {p u r : Text} (hu : u ≠ []) (hr : ∀ c ∈ r.head?, c ∉ p.tail) :
    p <+: u ++ r ↔ p <+: u := by
  refine ⟨fun h => ?_, fun h => h.trans (List.prefix_append u r)⟩
  rcases List.prefix_or_prefix_of_prefix h (List.prefix_append u r) with hpu | ⟨b, hb⟩
  · exact hpu
  · cases b with
    | nil => rw [List.append_nil] at hb; exact hb ▸ List.prefix_refl _
    | cons c cs =>
        -- what is left would begin with the next character
        obtain ⟨d, u, rfl⟩ := List.exists_cons_of_ne_nil hu
        rw [← hb, List.prefix_append_right_inj] at h
        obtain ⟨v, rfl⟩ := h
        exact absurd (by rw [← hb]; simp) (hr c rfl)

theorem infix_append_iff_of_head {p u r : Text} (hp : p ≠ []) (hr : ∀ c ∈ r.head?, c ∉ p.tail) :
    p <:+: u ++ r ↔ p <:+: u ∨ p <:+: r := by
  induction u with
  | nil => simp [hp]
  | cons c u ih =>
      rw [List.cons_append, List.infix_cons_iff, List.infix_cons_iff, ih, ← List.cons_append,
        prefix_append_iff_of_head (by simp) hr, or_assoc]

/-- What stands in two texts one behind the other is in one of them, or it is cut between them. -/
theorem infix_append_cases {p u r : Text} (h : p <:+: u ++ r) :
    p <:+: u ∨ p <:+: r ∨ ∃ a b, a ≠ [] ∧ b ≠ [] ∧ p = a ++ b ∧ a <:+ u ∧ b <+: r := by
  obtain ⟨s, t, h⟩ := h
  rw [List.append_assoc] at h
  rcases List.append_eq_append_iff.mp h with ⟨w, rfl, hp⟩ | ⟨w, rfl, rfl⟩
  · rcases List.append_eq_append_iff.mp hp with ⟨w', rfl, rfl⟩ | ⟨w', rfl, rfl⟩
    · exact .inl ⟨s, w', by simp⟩
    · by_cases hw : w = []
      · subst hw
        exact .inr (.inl (List.prefix_append w' t).isInfix)
      · by_cases hw' : w' = []
        · subst hw'
          exact .inl ⟨s, [], by simp⟩
        · exact .inr (.inr ⟨w, w', hw, hw', rfl, List.suffix_append s w,
            List.prefix_append w' t⟩)
  · exact .inr (.inl ⟨w, t, by simp⟩)

/-- What ends with a separator and has no other is on one side of a separator. -/
theorem infix_append_separator_iff {sep : Char} {x u r : Text} (hx : sep ∉ x) :
    x ++ [sep] <:+: u ++ [sep] ++ r ↔ x ++ [sep] <:+: u ++ [sep] ∨ x ++ [sep] <:+: r := by
  refine ⟨fun h => ?_, ?_⟩
  · rcases infix_append_cases h with h | h | ⟨a, b, ha, hb, heq, hu, -⟩
    · exact .inl h
    · exact .inr h
    · obtain ⟨w, rfl, -⟩ := (List.suffix_concat_iff.mp hu).resolve_left ha
      have hpre : w ++ [sep] <+: x :=
        (List.prefix_concat_iff.mp ⟨b, heq.symm⟩).resolve_left fun h => hb (by
          rw [h] at heq
          exact List.self_eq_append_right.mp heq)
      exact absurd (hpre.subset (by simp)) hx
  · rintro (h | h)
    · exact h.trans (List.prefix_append _ r).isInfix
    · exact h.trans (List.suffix_append _ r).isInfix

/-- What ends with a separator does not reach into a text without one. -/
theorem infix_append_iff_of_separator {sep : Char} {x u r : Text} (hr : sep ∉ r) :
    x ++ [sep] <:+: u ++ r ↔ x ++ [sep] <:+: u := by
  refine ⟨fun h => ?_, fun h => h.trans (List.prefix_append u r).isInfix⟩
  rcases infix_append_cases h with h | h | ⟨a, b, _, hb, heq, _, hpre⟩
  · exact h
  · exact absurd (h.subset (by simp)) hr
  · obtain ⟨w, rfl, -⟩ := (List.suffix_concat_iff.mp ⟨a, heq.symm⟩).resolve_left hb
    exact absurd (hpre.subset (by simp)) hr

/-- What begins with none of some characters does not begin among them. -/
theorem infix_append_iff_of_not_mem {p u r : Text} (hp : p ≠ []) (hu : ∀ c ∈ p.head?, c ∉ u) :
    p <:+: u ++ r ↔ p <:+: r := by
  obtain ⟨d, p, rfl⟩ := List.exists_cons_of_ne_nil hp
  induction u with
  | nil => rfl
  | cons c u ih =>
      have hd : d ∉ c :: u := hu d rfl
      rw [List.mem_cons, not_or] at hd
      rw [List.cons_append, List.infix_cons_iff, List.cons_prefix_cons,
        ih (by simpa using hd.2)]
      simp [hd.1]

theorem suffix_append_iff_of_not_mem {p v r : Text} (hp : p ≠ []) (hv : ∀ c ∈ p.head?, c ∉ v) :
    p <:+ v ++ r ↔ p <:+ r := by
  obtain ⟨d, p, rfl⟩ := List.exists_cons_of_ne_nil hp
  refine ⟨fun h => ?_, fun h => h.trans (List.suffix_append v r)⟩
  induction v with
  | nil => exact h
  | cons c v ih =>
      have hd : d ∉ c :: v := hv d rfl
      rw [List.mem_cons, not_or] at hd
      rw [List.cons_append] at h
      rcases List.suffix_cons_iff.mp h with heq | h
      · exact absurd (List.cons.inj heq).1 hd.1
      · exact ih (by simpa using hd.2) h

/-- A place in a text that is cut is on one side of the cut. -/
theorem append_eq_append_cons {a r b s : Text} {c : Char} (h : a ++ r = b ++ c :: s) :
    (∃ w, b = a ++ w ∧ r = w ++ c :: s) ∨ ∃ w, a = b ++ c :: w ∧ s = w ++ r := by
  rcases List.append_eq_append_iff.mp h with ⟨w, hb, hr⟩ | ⟨w, ha, hr⟩
  · exact .inl ⟨w, hb, hr⟩
  · cases w with
    | nil => exact .inl ⟨[], by simpa using ha.symm, hr.symm⟩
    | cons d w =>
        obtain ⟨rfl, rfl⟩ := List.cons.inj hr
        exact .inr ⟨w, ha, rfl⟩

/-- What stands before the first separator is determined. -/
theorem append_cons_inj_of_not_mem {sep : Char} {x a r b : Text} (hx : sep ∉ x) (ha : sep ∉ a)
    (h : x ++ sep :: r = a ++ sep :: b) : x = a ∧ r = b := by
  induction x generalizing a with
  | nil =>
      cases a with
      | nil => exact ⟨rfl, (List.cons.inj h).2⟩
      | cons d a => exact absurd (by rw [(List.cons.inj h).1]; exact List.mem_cons_self) ha
  | cons c x ih =>
      rw [List.mem_cons, not_or] at hx
      cases a with
      | nil => exact absurd (List.cons.inj h).1.symm hx.1
      | cons d a =>
          rw [List.mem_cons, not_or] at ha
          obtain ⟨rfl, htail⟩ := List.cons.inj h
          obtain ⟨rfl, rfl⟩ := ih hx.2 ha.2 htail
          exact ⟨rfl, rfl⟩

/-- What ends at a separator ends at the first one, or stands behind it. -/
theorem suffix_or_infix_of_separator {sep : Char} {x a b : Text} (hx : sep ∉ x) (ha : sep ∉ a)
    (h : x ++ [sep] <:+: a ++ sep :: b) : x <:+ a ∨ x ++ [sep] <:+: b := by
  induction a with
  | nil =>
      rcases List.infix_cons_iff.mp h with ⟨r, hr⟩ | h
      · rw [List.append_assoc] at hr
        obtain ⟨rfl, _⟩ := append_cons_inj_of_not_mem (a := []) hx List.not_mem_nil hr
        exact .inl (List.suffix_refl _)
      · exact .inr h
  | cons c a ih =>
      rcases List.infix_cons_iff.mp h with ⟨r, hr⟩ | h
      · rw [List.append_assoc] at hr
        obtain ⟨rfl, _⟩ := append_cons_inj_of_not_mem hx ha hr
        exact .inl (List.suffix_refl _)
      · rw [List.mem_cons, not_or] at ha
        exact (ih ha.2 h).imp_left fun h => h.trans (List.suffix_cons c a)

/-! ## A caret is a place to cut -/

theorem IsCommand.not_mem_tail {p r : Text} (hp : IsCommand p) (hr : AtCaret r) :
    ∀ c ∈ r.head?, c ∉ p.tail := by
  obtain ⟨name, rfl, hname⟩ := hp
  obtain ⟨r, rfl⟩ := hr
  simpa using hname

/-- A command that starts before a caret ends before it. -/
theorem IsCommand.prefix_append_iff {p u r : Text} (hp : IsCommand p) (hu : u ≠ [])
    (hr : AtCaret r) : p <+: u ++ r ↔ p <+: u :=
  prefix_append_iff_of_head hu (hp.not_mem_tail hr)

/-- A command in a text that is cut at a caret is in one of the two halves. -/
theorem IsCommand.infix_append_iff {p u r : Text} (hp : IsCommand p) (hr : AtCaret r) :
    p <:+: u ++ r ↔ p <:+: u ∨ p <:+: r :=
  infix_append_iff_of_head hp.ne_nil (hp.not_mem_tail hr)

/-- Characters that are no caret hold no command and begin none. -/
theorem IsCommand.infix_append_of_not_mem {p v r : Text} (hp : IsCommand p) (hv : '^' ∉ v) :
    p <:+: v ++ r ↔ p <:+: r := by
  obtain ⟨name, rfl, hname⟩ := hp
  exact infix_append_iff_of_not_mem (by simp) (by simpa using hv)

theorem IsCommand.not_infix_of_not_mem {p v : Text} (hp : IsCommand p) (hv : '^' ∉ v) :
    ¬ p <:+: v := by
  intro h
  rw [← List.append_nil v, hp.infix_append_of_not_mem hv] at h
  exact hp.ne_nil (List.infix_nil.mp h)

/-- What stands behind another command holds a command whether or not that one comes first. -/
theorem IsCommand.infix_command_append_iff {p q r : Text} (hp : IsCommand p) (hq : IsCommand q)
    (h : ¬ p <+: q ++ r) : p <:+: q ++ r ↔ p <:+: r := by
  obtain ⟨name, rfl, hname⟩ := hq
  rw [List.cons_append, List.infix_cons_iff]
  rw [List.cons_append] at h
  rw [hp.infix_append_of_not_mem hname]
  simp [h]

/-- A text that is cut at a caret behind a command's first character is cut behind the command. -/
theorem IsCommand.exists_append_of_append_eq {p b w z : Text} (hp : IsCommand p) (hw : w ≠ [])
    (hz : AtCaret z) (h : p ++ b = w ++ z) : ∃ w', w = p ++ w' ∧ b = w' ++ z := by
  rcases List.append_eq_append_iff.mp h with ⟨w', hw', hb⟩ | ⟨c, hc, hz'⟩
  · exact ⟨w', hw', hb⟩
  · cases c with
    | nil =>
        rw [List.append_nil] at hc
        exact ⟨[], by rw [hc, List.append_nil], by simpa using hz'.symm⟩
    | cons d c =>
        -- the cut would be inside the command, where there is no caret
        have hcaret : AtCaret (d :: c) := hz.of_prefix ⟨b, hz'.symm⟩ (by simp)
        exact absurd hcaret.mem (hp.not_mem_of_append hc hw)

/-! ## First occurrences -/

theorem cut?_eq_none_iff {p t : Text} (hp : p ≠ []) : cut? p t = none ↔ ¬ p <:+: t := by
  induction t with
  | nil => simp [cut?, hp]
  | cons c cs ih =>
      rw [cut?, List.infix_cons_iff]
      by_cases hpre : p <+: c :: cs
      · simp [hpre]
      · simp [hpre, ih]

theorem contains_iff {p t : Text} (hp : p ≠ []) : contains p t = true ↔ p <:+: t := by
  rw [contains, Option.isSome_iff_ne_none, ne_eq, cut?_eq_none_iff hp, Decidable.not_not]

/-- The empty text occurs everywhere. -/
theorem contains_eq_decide (p t : Text) : contains p t = decide (p <:+: t) := by
  by_cases hp : p = []
  · subst hp
    cases t <;> simp [contains, cut?]
  · rw [Bool.eq_iff_iff, contains_iff hp, decide_eq_true_iff]

/-- The first occurrence of a command has none before it. -/
theorem cut?_eq_some_iff {p t a b : Text} (hp : IsCommand p) :
    cut? p t = some (a, b) ↔ t = a ++ p ++ b ∧ ¬ p <:+: a := by
  induction t generalizing a with
  | nil => simp [cut?, hp.ne_nil]
  | cons c cs ih =>
      rw [cut?]
      by_cases hpre : p <+: c :: cs
      · obtain ⟨rest, hrest⟩ := hpre
        rw [if_pos (by simpa using ⟨rest, hrest⟩), ← hrest, List.drop_left]
        constructor
        · intro h
          obtain ⟨rfl, rfl⟩ := Prod.mk.inj (Option.some.inj h)
          exact ⟨rfl, by simpa using hp.ne_nil⟩
        · rintro ⟨heq, hno⟩
          cases a with
          | nil => simpa using heq
          | cons d a =>
              -- the occurrence at the front would lie within what is cut off
              rw [List.append_assoc] at heq
              have hin : p <+: (d :: a) ++ (p ++ b) := heq ▸ List.prefix_append p rest
              exact absurd ((hp.prefix_append_iff (by simp) (hp.atCaret b)).mp hin).isInfix hno
      · rw [if_neg (by simpa using hpre)]
        constructor
        · intro h
          obtain ⟨⟨a', b'⟩, hcut, hab⟩ := Option.map_eq_some_iff.mp h
          obtain ⟨rfl, rfl⟩ := Prod.mk.inj hab
          obtain ⟨rfl, hno⟩ := ih.mp hcut
          refine ⟨rfl, ?_⟩
          rw [List.infix_cons_iff, not_or]
          exact ⟨fun h' => hpre (h'.trans (by simp)), hno⟩
        · rintro ⟨heq, hno⟩
          cases a with
          | nil => exact absurd ⟨b, by simpa using heq.symm⟩ hpre
          | cons d a =>
              injection heq with hd heq
              rw [List.infix_cons_iff, not_or] at hno
              rw [ih.mpr ⟨heq, hno.2⟩, hd]
              rfl

/-- What stands before the first command of a kind is determined, and so is what stands behind. -/
theorem IsCommand.append_inj {p a a' b b' : Text} (hp : IsCommand p) (ha : ¬ p <:+: a)
    (ha' : ¬ p <:+: a') : a ++ (p ++ b) = a' ++ (p ++ b') ↔ a = a' ∧ b = b' := by
  constructor
  · intro h
    have hcut := (cut?_eq_some_iff hp).mpr ⟨(List.append_assoc a p b).symm, ha⟩
    have hcut' := (cut?_eq_some_iff hp).mpr ⟨(List.append_assoc a' p b').symm, ha'⟩
    rw [h, hcut'] at hcut
    obtain ⟨rfl, rfl⟩ := Prod.mk.inj (Option.some.inj hcut)
    exact ⟨rfl, rfl⟩
  · rintro ⟨rfl, rfl⟩
    rfl

/-- The cut is before the first place of its kind. -/
theorem splitBefore_eq_iff {p : Text → Bool} {t a b : Text} :
    splitBefore p t = (a, b) ↔
      t = a ++ b ∧ (∀ u, u ≠ [] → u <:+ a → p (u ++ b) = false) ∧ (b ≠ [] → p b = true) := by
  induction t generalizing a with
  | nil =>
      simp only [splitBefore, Prod.mk.injEq]
      constructor
      · rintro ⟨rfl, rfl⟩
        exact ⟨rfl, fun u hu h => absurd (List.suffix_nil.mp h) hu, fun h => absurd rfl h⟩
      · rintro ⟨h, _⟩
        obtain ⟨rfl, rfl⟩ := List.append_eq_nil_iff.mp h.symm
        exact ⟨rfl, rfl⟩
  | cons c cs ih =>
      rw [splitBefore]
      by_cases hp : p (c :: cs) = true
      · rw [if_pos hp]
        constructor
        · intro h
          obtain ⟨rfl, rfl⟩ := Prod.mk.inj h
          exact ⟨rfl, fun u hu h => absurd (List.suffix_nil.mp h) hu, fun _ => hp⟩
        · rintro ⟨heq, hno, _⟩
          cases a with
          | nil => rw [heq, List.nil_append]
          | cons d a =>
              have := hno (d :: a) (by simp) (List.suffix_refl _)
              rw [← heq, hp] at this
              exact absurd this (by simp)
      · rw [if_neg hp]
        obtain ⟨before, after, hsplit⟩ : ∃ before after, splitBefore p cs = (before, after) :=
          ⟨_, _, rfl⟩
        rw [hsplit]
        constructor
        · intro h
          obtain ⟨rfl, rfl⟩ := Prod.mk.inj h
          obtain ⟨rfl, hno, hb⟩ := ih.mp hsplit
          refine ⟨rfl, fun u hu h => ?_, hb⟩
          rcases List.suffix_cons_iff.mp h with rfl | h
          · exact Bool.eq_false_iff.mpr hp
          · exact hno u hu h
        · rintro ⟨heq, hno, hb⟩
          cases a with
          | nil =>
              rw [List.nil_append] at heq
              exact absurd (heq ▸ hb (by simp [← heq])) hp
          | cons d a =>
              obtain ⟨rfl, rfl⟩ := List.cons.inj heq
              have := ih.mpr ⟨rfl, fun u hu h => hno u hu (h.trans (List.suffix_cons _ _)), hb⟩
              rw [hsplit] at this
              obtain ⟨rfl, rfl⟩ := Prod.mk.inj this
              rfl

/-- What is searched for does not occur before the first place of its kind. -/
theorem not_infix_of_splitBefore {q : Text → Bool} {t a b p : Text} (h : splitBefore q t = (a, b))
    (hp : p ≠ []) (hq : ∀ r, q (p ++ r) = true) : ¬ p <:+: a := by
  rintro ⟨front, back, ha⟩
  obtain ⟨_, hno, _⟩ := splitBefore_eq_iff.mp h
  rw [List.append_assoc] at ha
  have hhere := hno (p ++ back) (by simp [hp]) ⟨front, ha⟩
  rw [List.append_assoc, hq] at hhere
  exact absurd hhere (by simp)

/-- What occurs in a text occurs for a first time. -/
theorem exists_first_of_infix {p t : Text} (hp : p ≠ []) (h : p <:+: t) :
    ∃ a b, t = a ++ (p ++ b) ∧ ¬ p <:+: a := by
  obtain ⟨a, rest, hsplit⟩ : ∃ a rest, splitBefore p.isPrefixOf t = (a, rest) := ⟨_, _, rfl⟩
  have hno : ¬ p <:+: a := not_infix_of_splitBefore hsplit hp (by simp)
  obtain ⟨rfl, _, hhere⟩ := splitBefore_eq_iff.mp hsplit
  have hrest : rest ≠ [] := by
    rintro rfl
    exact hno (by simpa using h)
  obtain ⟨b, rfl⟩ := List.isPrefixOf_iff_prefix.mp (hhere hrest)
  exact ⟨a, b, rfl, hno⟩

/-! ## How often a command occurs -/

/-- The number of places at which `p` occurs. -/
def occurrences (p : Text) : Text → Nat
  | [] => 0
  | c :: cs => (if p.isPrefixOf (c :: cs) then 1 else 0) + occurrences p cs

theorem occurrences_cons_of_not_prefix {p cs : Text} {c : Char} (h : ¬ p <+: c :: cs) :
    occurrences p (c :: cs) = occurrences p cs := by
  rw [occurrences, if_neg (by simpa using h), Nat.zero_add]

theorem occurrences_eq_zero_iff {p t : Text} (hp : p ≠ []) : occurrences p t = 0 ↔ ¬ p <:+: t := by
  induction t with
  | nil => simp [occurrences, hp]
  | cons c cs ih =>
      rw [occurrences, List.infix_cons_iff, Nat.add_eq_zero_iff, ih]
      simp

/-- What occurs in a text that is cut at a caret occurs in one of the two halves. -/
theorem IsCommand.occurrences_append {p u r : Text} (hp : IsCommand p) (hr : AtCaret r) :
    occurrences p (u ++ r) = occurrences p u + occurrences p r := by
  induction u with
  | nil => simp [occurrences]
  | cons c u ih =>
      have hhere := hp.prefix_append_iff (u := c :: u) (by simp) hr
      rw [List.cons_append] at hhere ⊢
      rw [occurrences, occurrences, ih, ← Nat.add_assoc]
      simp only [List.isPrefixOf_iff_prefix, hhere]

theorem IsCommand.occurrences_append_of_not_mem {p v : Text} (hp : IsCommand p) (hv : '^' ∉ v)
    (r : Text) : occurrences p (v ++ r) = occurrences p r := by
  obtain ⟨name, rfl, _⟩ := hp
  induction v with
  | nil => rfl
  | cons c v ih =>
      rw [List.mem_cons, not_or] at hv
      have hno : ¬ '^' :: name <+: c :: (v ++ r) := fun h => hv.1 (List.cons_prefix_cons.mp h).1
      rw [List.cons_append, occurrences_cons_of_not_prefix hno, ih hv.2]

/-- Of two commands of one length, one does not begin inside the other. -/
theorem IsCommand.occurrences_command_append {p q : Text} (hp : IsCommand p) (hq : IsCommand q)
    (hlength : p.length = q.length) (r : Text) :
    occurrences p (q ++ r) = (if p = q then 1 else 0) + occurrences p r := by
  have hpre : p <+: q ++ r ↔ p = q := by
    refine ⟨fun h => ?_, fun h => h ▸ List.prefix_append p r⟩
    exact (List.prefix_of_prefix_length_le h (List.prefix_append q r)
      (Nat.le_of_eq hlength)).eq_of_length hlength
  obtain ⟨name, rfl, hname⟩ := hq
  rw [List.cons_append] at hpre ⊢
  rw [occurrences, hp.occurrences_append_of_not_mem hname]
  simp only [List.isPrefixOf_iff_prefix, hpre]

end Text

/-! ## The commands -/

namespace Command

open Text (IsCommand)

theorem isCommand_fieldData : IsCommand fieldData := ⟨_, rfl, by decide⟩

theorem isCommand_fieldEnd : IsCommand fieldEnd := ⟨_, rfl, by decide⟩

theorem isCommand_hexMarker : IsCommand hexMarker := ⟨_, rfl, by decide⟩

theorem isCommand_graphicCall : IsCommand graphicCall := ⟨_, rfl, by decide⟩

theorem isCommand_gapMedia : IsCommand gapMedia := ⟨_, rfl, by decide⟩

theorem isCommand_formatStart : IsCommand formatStart := ⟨_, rfl, by decide⟩

theorem isCommand_formatEnd : IsCommand formatEnd := ⟨_, rfl, by decide⟩

theorem isCommand_keepImage : IsCommand keepImage := ⟨_, rfl, by decide⟩

theorem isCommand_deleteObject : IsCommand deleteObject := ⟨_, rfl, by decide⟩

theorem isCommand_fieldOrigin : IsCommand fieldOrigin := ⟨_, rfl, by decide⟩

theorem isCommand_fieldTypeset : IsCommand fieldTypeset := ⟨_, rfl, by decide⟩

end Command

end LabelTemplate
