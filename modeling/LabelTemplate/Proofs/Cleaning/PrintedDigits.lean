import LabelTemplate.Cleaning
import LabelTemplate.Proofs.Scan.Rewriting
import LabelTemplate.Proofs.Statement.Grammar

/-!
# Bar codes that print their digits

An EAN-13 command whose digits are not printed has one caret, its first character. So none begins
inside another, and the scan finds each of them: the flag of each is changed, and no other character
(`getElem?_forceInterpretationLine`). As a flag in its place is a capital letter whether it is
changed or not, a command that hides its digits afterwards would have hidden them before, and its
flag would have been changed (`not_infix_forceInterpretationLine`).
-/

namespace LabelTemplate.Cleaning

open Text Command Scan Statement

/-! ## Specification -/

/--
What stands before and behind the flag of an EAN-13 command: before it the command, its orientation
and its height, behind it another flag.
-/
inductive AroundFlag : Text → Text → Prop where
  | intro {orientation above : Char} {height : Text} :
      orientation.isUpper = true → above.isUpper = true → (∀ c ∈ height, isDecimal c = true) →
      AroundFlag (ean13 ++ orientation :: ',' :: height ++ [',']) [',', above]

/-- The flag stands here that says not to print the digits of an EAN-13 command. -/
def AtHidingFlag (before behind : Text) : Prop :=
  ∃ front back, AroundFlag front back ∧ front <:+ before ∧ 'N' :: back <+: behind

/-- A character is as it was, or it was an N and is a Y. -/
def SameOrPrinted (c c' : Char) : Prop := c' = c ∨ c = 'N' ∧ c' = 'Y'

/-! ## Commands that hide their digits -/

theorem not_mem_of_isDecimal {t : Text} {d : Char} (hd : isDecimal d = false)
    (h : ∀ c ∈ t, isDecimal c = true) : d ∉ t := by
  intro hmem
  rw [h d hmem] at hd
  exact absurd hd (by decide)

theorem hiddenDigits_eq_some_iff {t front back : Text} {n : Nat} :
    hiddenDigits t = some ((front, back), n) ↔ AroundFlag front back ∧
      n = (front ++ 'N' :: back).length ∧ front ++ 'N' :: back <+: t := by
  unfold hiddenDigits
  constructor
  · intro hsome
    obtain ⟨behind, hbehind, h⟩ := Option.bind_eq_some_iff.mp hsome
    rw [after?_eq_some_iff] at hbehind
    clear hsome
    split at h
    · rename_i orientation cs
      split at h
      · rename_i above rest hupper hdrop
        split at h
        · rename_i habove
          simp only [Option.pure_def, Option.some.injEq, Prod.mk.injEq] at h
          obtain ⟨⟨rfl, rfl⟩, rfl⟩ := h
          refine ⟨.intro hupper habove of_mem_takeWhile, ?_, rest, ?_⟩
          · simp only [List.length_append, List.length_cons, List.length_nil]
          · have hcs := List.takeWhile_append_dropWhile (p := isDecimal) (l := cs)
            rw [hdrop] at hcs
            rw [hbehind]
            nth_rewrite 2 [← hcs]
            simp
        · exact absurd h (by simp)
      · exact absurd h (by simp)
    · exact absurd h (by simp)
  · rintro ⟨hflag, rfl, rest, rfl⟩
    cases hflag with
    | @intro orientation above height hupper habove hheight =>
        obtain ⟨htake, hdrop⟩ := takeWhile_append_of_head (',' :: 'N' :: ',' :: above :: rest)
          hheight (by intro c hc; obtain rfl := Option.some.inj hc; decide)
        have hsplit :
            ean13 ++ orientation :: ',' :: height ++ [','] ++ 'N' :: [',', above] ++ rest =
            ean13 ++ orientation :: ',' :: (height ++ ',' :: 'N' :: ',' :: above :: rest) := by
          simp
        rw [hsplit, after?_eq_some_iff.mpr rfl]
        simp only [Option.bind_eq_bind, Option.bind_some, htake, hdrop, hupper, habove, if_true]
        simp only [Option.pure_def, List.length_append, List.length_cons, List.length_nil]

theorem hiddenDigits_eq_none_iff {t : Text} :
    hiddenDigits t = none ↔ ∀ front back, AroundFlag front back → ¬ front ++ 'N' :: back <+: t := by
  constructor
  · intro h front back hflag hpre
    rw [hiddenDigits_eq_some_iff.mpr ⟨hflag, rfl, hpre⟩] at h
    exact absurd h (by simp)
  · refine fun h => Option.eq_none_iff_forall_ne_some.mpr fun ⟨⟨front, back⟩, n⟩ hsome => ?_
    obtain ⟨hflag, _, hpre⟩ := hiddenDigits_eq_some_iff.mp hsome
    exact h front back hflag hpre

theorem exact_hiddenDigits : Exact hiddenDigits := by
  rintro t ⟨front, back⟩ n h
  obtain ⟨_, rfl, hpre⟩ := hiddenDigits_eq_some_iff.mp h
  refine ⟨?_, hpre.length_le⟩
  simp only [List.length_append, List.length_cons]
  omega

namespace AroundFlag

variable {front back : Text}

theorem isCommand (h : AroundFlag front back) : IsCommand (front ++ 'N' :: back) := by
  cases h with
  | @intro orientation above height hupper habove hheight =>
      have hname : ∀ c : Char, c.isUpper = true → '^' ≠ c := by
        rintro c hc rfl
        exact absurd hc (by decide)
      have hdigits := not_mem_of_isDecimal (d := '^') (by decide) hheight
      refine ⟨'B' :: 'E' :: orientation :: ',' :: height ++ [',', 'N', ',', above],
        by simp [ean13], ?_⟩
      simp [hname _ hupper, hname _ habove, hdigits]

theorem front_ne_nil (h : AroundFlag front back) : front ≠ [] := by
  cases h
  simp [ean13]

/-- Where the flag stands is determined by what comes before it. -/
theorem eq_of_prefix {front' back' : Text} (h : AroundFlag front back)
    (h' : AroundFlag front' back') (hpre : front <+: front') : front = front' := by
  cases h with
  | @intro orientation above height hupper habove hheight =>
    cases h' with
    | @intro orientation' above' height' hupper' habove' hheight' =>
        obtain ⟨rest, heq⟩ := hpre
        have hcomma : ∀ {t : Text}, (∀ c ∈ t, isDecimal c = true) → ',' ∉ t :=
          not_mem_of_isDecimal (by decide)
        have htail : orientation :: ',' :: (height ++ ',' :: rest) =
            orientation' :: ',' :: (height' ++ ',' :: []) := by
          simpa using heq
        obtain ⟨rfl, hbehind⟩ := List.cons.inj htail
        obtain ⟨rfl, _⟩ := append_cons_inj_of_not_mem (hcomma hheight) (hcomma hheight')
          (List.cons.inj hbehind).2
        rfl

/-- Inside a command that hides its digits there is no flag of another one. -/
theorem eq_front_of_atHidingFlag (h : AroundFlag front back) {before behind : Text}
    (hpre : before <+: front ++ 'N' :: back) (hat : AtHidingFlag before behind) :
    before = front := by
  obtain ⟨front', back', h', ⟨x, rfl⟩, _⟩ := hat
  have hcommand := h'.isCommand.atCaret []
  have hcaret : AtCaret front' := hcommand.of_prefix ⟨'N' :: back', by simp⟩ h'.front_ne_nil
  obtain ⟨r, hr⟩ := hpre
  cases x with
  | nil =>
      rcases List.prefix_or_prefix_of_prefix ⟨r, hr⟩ (List.prefix_append front _) with hin | hin
      · exact h'.eq_of_prefix h hin
      · exact (h.eq_of_prefix h' hin).symm
  | cons d x =>
      rw [List.append_assoc] at hr
      exact absurd (hcaret.append r).mem (h.isCommand.not_mem_of_append hr.symm (by simp))

end AroundFlag

/-! ## Changing the flags -/

theorem forceInterpretationLine_cons {c : Char} {cs : Text}
    (h : ∀ front back, AroundFlag front back → ¬ front ++ 'N' :: back <+: c :: cs) :
    forceInterpretationLine (c :: cs) = c :: forceInterpretationLine cs :=
  replace_of_none (hiddenDigits_eq_none_iff.mpr h)

theorem forceInterpretationLine_hidden {front back : Text} (h : AroundFlag front back)
    (rest : Text) : forceInterpretationLine (front ++ 'N' :: back ++ rest) =
      front ++ 'Y' :: back ++ forceInterpretationLine rest := by
  have hsome := hiddenDigits_eq_some_iff.mpr ⟨h, rfl, List.prefix_append _ rest⟩
  rw [forceInterpretationLine, replace_of_some exact_hiddenDigits hsome, List.drop_left,
    ← forceInterpretationLine]

/-- Induction along the commands that hide their digits. -/
@[elab_as_elim]
theorem induction_on_hidden {motive : Text → Prop} (nil : motive [])
    (plain : ∀ c cs, (∀ front back, AroundFlag front back → ¬ front ++ 'N' :: back <+: c :: cs) →
      motive cs → motive (c :: cs))
    (hidden : ∀ front back rest, AroundFlag front back → motive rest →
      motive (front ++ 'N' :: back ++ rest)) (t : Text) : motive t := by
  induction t using exact_hiddenDigits.induction with
  | nil => exact nil
  | plain c cs h ih => exact plain c cs (hiddenDigits_eq_none_iff.mp h) ih
  | hit t a n h ih =>
      obtain ⟨front, back⟩ := a
      obtain ⟨hflag, rfl, rest, rfl⟩ := hiddenDigits_eq_some_iff.mp h
      rw [List.drop_left] at ih
      exact hidden front back rest hflag ih

theorem atHidingFlag_cons_iff {c : Char} {before behind : Text}
    (h : ∀ front back, AroundFlag front back → ¬ front ++ 'N' :: back <+: c :: (before ++ behind)) :
    AtHidingFlag (c :: before) behind ↔ AtHidingFlag before behind := by
  constructor
  · rintro ⟨front, back, hflag, hfront, hback⟩
    rcases List.suffix_cons_iff.mp hfront with rfl | hfront
    · refine absurd ?_ (h _ back hflag)
      rw [← List.cons_append]
      exact (List.prefix_append_right_inj _).mpr hback
    · exact ⟨front, back, hflag, hfront, hback⟩
  · rintro ⟨front, back, hflag, hfront, hback⟩
    exact ⟨front, back, hflag, hfront.trans (List.suffix_cons c before), hback⟩

theorem atHidingFlag_append_iff {front back before behind : Text} (h : AroundFlag front back) :
    AtHidingFlag (front ++ 'N' :: back ++ before) behind ↔ AtHidingFlag before behind := by
  constructor
  · rintro ⟨front', back', h', hfront, hback⟩
    rcases List.suffix_or_suffix_of_suffix hfront (List.suffix_append _ before) with hin | hlong
    · exact ⟨front', back', h', hin, hback⟩
    · obtain ⟨x, rfl⟩ := hlong
      cases x with
      | nil => exact ⟨before, back', h', List.suffix_refl _, hback⟩
      | cons d x =>
          -- the command would begin inside the other one, so it is that one, whose flag was passed
          have hcommand := h'.isCommand.atCaret []
          have hcaret : AtCaret (d :: x) :=
            hcommand.of_prefix ⟨before ++ 'N' :: back', by simp⟩ (by simp)
          obtain ⟨y, hy⟩ := hfront
          rw [← List.append_assoc, List.append_left_inj] at hy
          cases y with
          | nil =>
              rw [List.nil_append] at hy
              have hsame : front = d :: x ++ before :=
                h.eq_of_prefix h' ⟨'N' :: back ++ before, by rw [hy]; simp⟩
              have hlength := congrArg List.length hsame
              rw [hy] at hlength
              simp only [List.length_append, List.length_cons] at hlength
              omega
          | cons e y =>
              exact absurd hcaret.mem (h.isCommand.not_mem_of_append hy.symm (by simp))
  · rintro ⟨front', back', h', hfront, hback⟩
    exact ⟨front', back', h', hfront.trans (List.suffix_append _ before), hback⟩

/-- **Of each command that hides its digits the flag is changed, and nothing else is.** -/
theorem getElem?_forceInterpretationLine {t before behind : Text} {c : Char}
    (h : t = before ++ c :: behind) :
    (AtHidingFlag before (c :: behind) → (forceInterpretationLine t)[before.length]? = some 'Y') ∧
      (¬ AtHidingFlag before (c :: behind) →
        (forceInterpretationLine t)[before.length]? = some c) := by
  induction t using induction_on_hidden generalizing before with
  | nil => exact absurd h (by simp)
  | plain d cs hno ih =>
      rw [forceInterpretationLine_cons hno]
      cases before with
      | nil =>
          obtain ⟨rfl, rfl⟩ := List.cons.inj h
          refine ⟨fun ⟨front, back, hflag, hfront, _⟩ => ?_, fun _ => rfl⟩
          exact absurd (List.suffix_nil.mp hfront) hflag.front_ne_nil
      | cons e before =>
          obtain ⟨rfl, rfl⟩ := List.cons.inj h
          rw [atHidingFlag_cons_iff hno, List.length_cons, List.getElem?_cons_succ]
          exact ih rfl
  | hidden front back rest hflag ih =>
      rw [forceInterpretationLine_hidden hflag]
      rcases append_eq_append_cons h with ⟨w, rfl, hrest⟩ | ⟨w, hw, hbehind⟩
      · have hlength : (front ++ 'N' :: back ++ w).length =
            (front ++ 'Y' :: back).length + w.length := by
          simp only [List.length_append, List.length_cons]
        rw [atHidingFlag_append_iff hflag, hlength,
          List.getElem?_append_right (Nat.le_add_right _ _), Nat.add_sub_cancel_left]
        exact ih hrest
      · have hset : front ++ 'Y' :: back = (front ++ 'N' :: back).set front.length 'Y' := by simp
        have hinside : before.length < (front ++ 'Y' :: back).length := by
          rw [hset, List.length_set, hw, List.length_append, List.length_cons]
          omega
        have hplace : ∀ hat : AtHidingFlag before (c :: behind), before = front :=
          hflag.eq_front_of_atHidingFlag ⟨c :: w, hw.symm⟩
        rw [List.getElem?_append_left hinside, hset]
        constructor
        · intro hat
          rw [hplace hat]
          simp
        · intro hno
          have hfront : front.length ≠ before.length := by
            intro hlength
            obtain ⟨rfl, hrest⟩ := List.append_inj hw hlength
            refine hno ⟨front, back, hflag, List.suffix_refl _, rest, ?_⟩
            rw [hrest, hbehind]
            rfl
          rw [List.getElem?_set_ne hfront, hw]
          simp

/-! ## No digits are hidden afterwards -/

theorem forall₂_sameOrPrinted (t : Text) :
    List.Forall₂ SameOrPrinted t (forceInterpretationLine t) := by
  induction t using induction_on_hidden with
  | nil => exact .nil
  | plain c cs hno ih =>
      rw [forceInterpretationLine_cons hno]
      exact .cons (.inl rfl) ih
  | hidden front back rest hflag ih =>
      have hsame : ∀ u : Text, List.Forall₂ SameOrPrinted u u :=
        fun u => List.forall₂_same.mpr fun _ _ => .inl rfl
      rw [forceInterpretationLine_hidden hflag]
      have hflags : List.Forall₂ SameOrPrinted ('N' :: back) ('Y' :: back) :=
        .cons (.inr ⟨rfl, rfl⟩) (hsame back)
      exact List.rel_append (List.rel_append (hsame front) hflags) ih

theorem length_forceInterpretationLine (t : Text) :
    (forceInterpretationLine t).length = t.length := (forall₂_sameOrPrinted t).length_eq.symm

/-- A text in which there is no Y is as it was. -/
theorem eq_of_sameOrPrinted {u v : Text} (h : List.Forall₂ SameOrPrinted u v) (hv : 'Y' ∉ v) :
    u = v := by
  induction h with
  | nil => rfl
  | cons hhead _ ih =>
      rw [List.mem_cons, not_or] at hv
      rcases hhead with rfl | ⟨_, rfl⟩
      · rw [ih hv.2]
      · exact absurd rfl hv.1

theorem isUpper_of_sameOrPrinted {c c' : Char} (h : SameOrPrinted c c')
    (hupper : c'.isUpper = true) : c.isUpper = true := by
  rcases h with rfl | ⟨rfl, _⟩
  · exact hupper
  · decide

/-- What corresponds to a text that is cut can be cut. -/
theorem exists_append_of_forall₂ {R : Char → Char → Prop} {t u v : Text}
    (h : List.Forall₂ R t (u ++ v)) :
    ∃ u' v', t = u' ++ v' ∧ List.Forall₂ R u' u ∧ List.Forall₂ R v' v :=
  ⟨t.take u.length, t.drop u.length, (List.take_append_drop _ t).symm,
    List.forall₂_take_append t u v h, List.forall₂_drop_append t u v h⟩

/-- What is around a flag was around one before. -/
theorem AroundFlag.of_sameOrPrinted {front back front' back' : Text} (h : AroundFlag front' back')
    (hfront : List.Forall₂ SameOrPrinted front front')
    (hback : List.Forall₂ SameOrPrinted back back') : AroundFlag front back := by
  cases h with
  | @intro orientation above height hupper habove hheight =>
      have hdigits := not_mem_of_isDecimal (d := 'Y') (by decide) hheight
      have hsplit : ean13 ++ orientation :: ',' :: height ++ [','] =
          ean13 ++ orientation :: (',' :: height ++ [',']) := by simp
      rw [hsplit] at hfront
      obtain ⟨command, rest, rfl, hcommand, hrest⟩ := exists_append_of_forall₂ hfront
      obtain ⟨orientation', rest', horientation, hrest', rfl⟩ :=
        List.forall₂_cons_right_iff.mp hrest
      obtain ⟨comma, above', hcomma, habove', rfl⟩ := List.forall₂_cons_right_iff.mp hback
      obtain ⟨above', _, hupper', hnil, rfl⟩ := List.forall₂_cons_right_iff.mp habove'
      obtain rfl := List.forall₂_nil_right_iff.mp hnil
      obtain rfl : command = ean13 := eq_of_sameOrPrinted hcommand (by decide)
      obtain rfl : rest' = ',' :: height ++ [','] :=
        eq_of_sameOrPrinted hrest' (by simp [hdigits])
      obtain rfl : comma = ',' :=
        (List.cons.inj (eq_of_sameOrPrinted (.cons hcomma .nil) (by decide))).1
      have := AroundFlag.intro (isUpper_of_sameOrPrinted horientation hupper)
        (isUpper_of_sameOrPrinted hupper' habove) hheight
      simpa using this

/-- **No command hides its digits any more.** -/
theorem not_infix_forceInterpretationLine {front back : Text} (h : AroundFlag front back)
    (t : Text) : ¬ front ++ 'N' :: back <:+: forceInterpretationLine t := by
  rintro ⟨before, behind, heq⟩
  have hsame := forall₂_sameOrPrinted t
  rw [← heq, List.append_assoc, List.append_assoc] at hsame
  obtain ⟨before', rest, ht, hbefore, hrest⟩ := exists_append_of_forall₂ hsame
  obtain ⟨front', rest', rfl, hfront, hrest'⟩ := exists_append_of_forall₂ hrest
  obtain ⟨c, rest'', hflag, hrest'', rfl⟩ := List.forall₂_cons_right_iff.mp hrest'
  obtain ⟨back', behind', rfl, hback, _⟩ := exists_append_of_forall₂ hrest''
  -- there was an N before, so the flag would have been changed
  obtain rfl : c = 'N' := by
    rcases hflag with hflag | ⟨_, hflag⟩
    · exact hflag.symm
    · exact absurd hflag (by decide)
  have hat : AtHidingFlag (before' ++ front') ('N' :: (back' ++ behind')) :=
    ⟨front', back', h.of_sameOrPrinted hfront hback, List.suffix_append before' front',
      List.prefix_append ('N' :: back') behind'⟩
  have hplace : t = before' ++ front' ++ 'N' :: (back' ++ behind') := by rw [ht, List.append_assoc]
  have hchanged := (getElem?_forceInterpretationLine hplace).1 hat
  have hlength : (before' ++ front').length = (before ++ front).length := by
    rw [List.length_append, List.length_append, hbefore.length_eq, hfront.length_eq]
  rw [← heq, hlength, List.append_assoc, ← List.append_assoc, ← List.append_assoc] at hchanged
  simp at hchanged

theorem forceInterpretationLine_forceInterpretationLine (t : Text) :
    forceInterpretationLine (forceInterpretationLine t) = forceInterpretationLine t :=
  replace_eq_self fun _ _ hsuffix => hiddenDigits_eq_none_iff.mpr fun _ _ hflag hpre =>
    not_infix_forceInterpretationLine hflag t (hpre.isInfix.trans hsuffix.isInfix)

end LabelTemplate.Cleaning
