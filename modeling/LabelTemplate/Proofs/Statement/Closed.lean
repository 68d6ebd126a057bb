import LabelTemplate.Proofs.Statement.Replacement
import Mathlib.Data.List.Infix

/-!
# Where no statement is open

A statement is open at a place if it is opened before it and not ended since. Between two lines
where none is, the scan falls apart (`pieces_append_of_not_open`). The reason has two halves.
A statement that ran over the place would be opened before it, since no opener goes
over the end of a line; and it would have its end on the far side, since a statement holds
no `^FS` but the one it ends with (`Valid.not_infix_of_append_eq`). Then it would be open there.
-/

namespace LabelTemplate

open Text Command Scan

namespace Statement

/-- A statement is opened in this text, and it is not ended in what follows. -/
def Open (t : Text) : Prop :=
  ∃ u ∈ t.tails, (fieldOrigin <+: u ∨ fieldTypeset <+: u) ∧ ¬ fieldEnd <:+: u

instance (t : Text) : Decidable (Open t) :=
  inferInstanceAs (Decidable (∃ u ∈ t.tails, _ ∧ _))

/-- A statement is open at a place of a text. -/
def OpenAt (t : Text) (place : Nat) : Prop := Open (t.take place)

instance (t : Text) (place : Nat) : Decidable (OpenAt t place) :=
  inferInstanceAs (Decidable (Open _))

/-! ## The end of a line is a place to cut -/

/-- What comes behind a line: nothing, or a line feed. -/
def AtLineEnd (t : Text) : Prop := t = [] ∨ ∃ u, t = '\n' :: u

/-- What has no line feed does not go over the end of a line. -/
theorem prefix_append_atLineEnd_iff {p t u : Text} (hp : '\n' ∉ p) (hu : AtLineEnd u) :
    p <+: t ++ u ↔ p <+: t := by
  refine ⟨fun h => ?_, fun h => h.trans (List.prefix_append t u)⟩
  rcases List.prefix_or_prefix_of_prefix h (List.prefix_append t u) with hpt | ⟨b, rfl⟩
  · exact hpt
  · rw [List.prefix_append_right_inj] at h
    cases b with
    | nil => rw [List.append_nil]
    | cons c b =>
        rcases hu with rfl | ⟨u, rfl⟩
        · exact absurd h (by simp)
        · obtain ⟨rfl, _⟩ := List.cons_prefix_cons.mp h
          exact absurd (by simp) hp

theorem infix_append_feed_iff {p t : Text} (hp : '\n' ∉ p) : p <:+: t ++ ['\n'] ↔ p <:+: t := by
  refine ⟨fun h => ?_, fun h => h.trans (List.prefix_append t _).isInfix⟩
  rcases List.infix_concat_iff.mp h with h | h
  · rcases List.suffix_concat_iff.mp h with rfl | ⟨q, rfl, _⟩
    · exact List.nil_infix
    · exact absurd (by simp) hp
  · exact h

/-! ## Open texts -/

theorem not_open_nil : ¬ Open [] := by decide

/-- What is open behind some text is open with it in front. -/
theorem Open.append_left {t : Text} (h : Open t) (front : Text) : Open (front ++ t) := by
  obtain ⟨u, hu, hopen⟩ := h
  rw [List.mem_tails] at hu
  exact ⟨u, (List.mem_tails _ _).mpr (hu.trans (List.suffix_append front t)), hopen⟩

/-- A line feed ends no statement. -/
theorem Open.append_feed {t : Text} (h : Open t) : Open (t ++ ['\n']) := by
  obtain ⟨u, hu, hopen, hend⟩ := h
  rw [List.mem_tails] at hu
  obtain ⟨front, rfl⟩ := hu
  refine ⟨u ++ ['\n'], (List.mem_tails _ _).mpr ⟨front, by simp⟩, ?_, ?_⟩
  · exact hopen.imp (·.trans (List.prefix_append u _)) (·.trans (List.prefix_append u _))
  · rwa [infix_append_feed_iff (by decide)]

/-- What is open over the end of a line is open on one side of it. -/
theorem not_open_append {t u : Text} (ht : ¬ Open t) (hu : ¬ Open u) (hline : AtLineEnd u) :
    ¬ Open (t ++ u) := by
  rintro ⟨v, hv, hopen, hend⟩
  obtain ⟨front, hfront⟩ := (List.mem_tails _ _).mp hv
  rcases List.append_eq_append_iff.mp hfront with ⟨w, rfl, rfl⟩ | ⟨w, rfl, rfl⟩
  · rw [prefix_append_atLineEnd_iff (by decide) hline,
      prefix_append_atLineEnd_iff (by decide) hline] at hopen
    exact ht ⟨w, (List.mem_tails _ _).mpr (List.suffix_append front w), hopen,
      fun hin => hend (hin.trans (List.prefix_append w u).isInfix)⟩
  · exact hu ⟨v, (List.mem_tails _ _).mpr (List.suffix_append w v), hopen, hend⟩

theorem open_of_opener {kind : FieldKind} {t : Text} (hopener : kind.opener <+: t)
    (hend : ¬ fieldEnd <:+: t) : Open t := by
  refine ⟨t, by simp, ?_, hend⟩
  cases kind with
  | image => exact Or.inl hopener
  | barcode => exact Or.inr hopener
  | text => exact Or.inr hopener

/-! ## A statement has one end -/

/-- Nothing in a statement ends one, up to the end of its value. -/
theorem Valid.not_infix_body {s : Statement} (hs : s.Valid) :
    ¬ fieldEnd <:+: s.front ++ (s.middle ++ (s.kind.dataCommand ++ s.value)) := by
  obtain ⟨lead, rest, hmiddle, hlead, hfree⟩ := hs.middle
  have hdata : ∀ r, ¬ fieldEnd <+: s.kind.dataCommand ++ r := by
    intro r h
    have heq := Headed.eq_of_prefix (headed_dataCommand s.kind) rfl h
    revert heq
    cases s.kind <;> decide
  have hvalue : ¬ fieldEnd <:+: s.kind.dataCommand ++ s.value := by
    rw [isCommand_fieldEnd.infix_command_append_iff (isCommand_dataCommand s.kind) (hdata _)]
    by_cases hkind : s.kind = .image
    · have hname := hs.value
      rw [hkind] at hname
      exact isCommand_fieldEnd.not_infix_of_not_mem (not_mem_of_isName hname.2)
    · exact (validValue_iff hkind).mp hs.value
  have hrest : ¬ fieldEnd <:+: rest ++ (s.kind.dataCommand ++ s.value) := by
    rw [isCommand_fieldEnd.infix_append_iff ((isCommand_dataCommand s.kind).atCaret _), not_or]
    exact ⟨hfree _ (.fieldEnd _), hvalue⟩
  have hbehind : ¬ fieldEnd <:+: s.middle ++ (s.kind.dataCommand ++ s.value) := by
    rw [hmiddle, List.append_assoc]
    rcases hlead.eq_nil_or_isCommand with rfl | ⟨hkind, hcommand⟩
    · exact hrest
    · rw [hkind] at hlead
      obtain ⟨word, hword, hheaded⟩ := hlead.headed
      rw [isCommand_fieldEnd.infix_command_append_iff hcommand]
      · exact hrest
      · intro h
        obtain rfl := hheaded.eq_of_prefix rfl h
        exact absurd hword (by decide)
  rw [isCommand_fieldEnd.infix_command_append_iff hs.isCommand_front]
  · exact hbehind
  · intro h
    have heq := hs.headed_front.eq_of_prefix rfl h
    revert heq
    cases s.kind <;> decide

/-- **A statement holds no `^FS` but the one it ends with.** -/
theorem Valid.not_infix_of_append_eq {s : Statement} (hs : s.Valid) {w z : Text}
    (h : s.text = w ++ z) (hz : z ≠ []) : ¬ fieldEnd <:+: w := by
  have htext : s.text =
      s.front ++ (s.middle ++ (s.kind.dataCommand ++ s.value)) ++ s.kind.closer := by
    simp [text_eq_front]
  rw [htext] at h
  rcases List.append_eq_append_iff.mp h with ⟨a, rfl, hcloser⟩ | ⟨b, hbody, _⟩
  · have hlength := congrArg List.length hcloser
    rw [List.length_append] at hlength
    have hpos := List.length_pos_iff.mpr hz
    cases a with
    | nil => rw [List.append_nil]; exact hs.not_infix_body
    | cons c a =>
        -- only the end of a text or a bar code has room for a cut
        have hkind : s.kind ≠ .image := by
          intro hkind
          rw [hkind] at hlength
          simp only [FieldKind.closer, List.length_cons, List.length_nil] at hlength
          omega
        rw [closer_eq hkind] at hcloser hlength
        have hpre : c :: a <+: fieldEnd ++ [] := ⟨z, by rw [hcloser, List.append_nil]⟩
        have hcaret : AtCaret (c :: a) :=
          AtCaret.of_prefix (isCommand_fieldEnd.atCaret []) hpre (by simp)
        rw [isCommand_fieldEnd.infix_append_iff hcaret, not_or]
        refine ⟨hs.not_infix_body, fun hin => ?_⟩
        have := hin.length_le
        omega
  · intro hin
    exact hs.not_infix_body (hbody ▸ hin.trans (List.prefix_append w b).isInfix)

/-! ## Where the scan falls apart -/

/-- **At the end of a line where no statement is open the scan falls apart.** -/
theorem pieces_append_of_not_open {kind : FieldKind} {t u : Text} (ht : ¬ Open t)
    (hu : AtLineEnd u) :
    pieces (recognise kind) (t ++ u) = pieces (recognise kind) t ++ pieces (recognise kind) u := by
  induction t using (exact_recognise kind).induction with
  | nil => rfl
  | plain c cs h ih =>
      have hnone : recognise kind (c :: cs ++ u) = none := by
        refine Option.eq_none_iff_forall_ne_some.mpr fun ⟨s, n⟩ hrec => ?_
        obtain ⟨rfl, hs, hpre, _⟩ := recognise_eq_some_iff.mp hrec
        rcases List.prefix_or_prefix_of_prefix hpre (List.prefix_append (c :: cs) u)
          with hin | ⟨z, hz⟩
        · rw [recognise_eq_some_iff.mpr ⟨rfl, hs, hin, rfl⟩] at h
          exact absurd h (by simp)
        · -- the statement would be open at the end of the line
          have hopener : s.kind.opener <+: c :: cs := by
            refine (prefix_append_atLineEnd_iff (by cases s.kind <;> decide) hu).mp
              (List.IsPrefix.trans ?_ hpre)
            rw [text_eq]
            exact List.prefix_append _ _
          by_cases hnil : z = []
          · rw [hnil, List.append_nil] at hz
            rw [recognise_eq_some_iff.mpr ⟨rfl, hs, hz ▸ List.prefix_refl _, rfl⟩] at h
            exact absurd h (by simp)
          · exact ht (open_of_opener hopener (hs.not_infix_of_append_eq hz.symm hnil))
      have hcs : ¬ Open cs := fun hopen => ht (hopen.append_left [c])
      rw [List.cons_append] at hnone ⊢
      rw [pieces_of_none hnone, pieces_of_none h, ih hcs, List.cons_append]
  | hit t s n h ih =>
      obtain ⟨rfl, hs, ⟨rest, rfl⟩, rfl⟩ := recognise_eq_some_iff.mp h
      rw [← length_text, List.drop_left] at ih
      have hrest : ¬ Open rest := fun hopen => ht (hopen.append_left s.text)
      rw [List.append_assoc, hs.pieces_append, hs.pieces_append, ih hrest, List.cons_append]

theorem found_append_of_not_open {kind : FieldKind} {t u : Text} (ht : ¬ Open t)
    (hu : AtLineEnd u) :
    found (recognise kind) (t ++ u) = found (recognise kind) t ++ found (recognise kind) u :=
  found_eq_append 0 (pieces_append_of_not_open ht hu)

end Statement

end LabelTemplate
