import LabelTemplate.Proofs.Cleaning.PrintedStatements

/-!
# Bar codes that go on hiding their digits

The third parameter of an EAN-13 command says whether its digits are printed. To the printer it is
a flag in any case, to the cleaning only where a fourth parameter follows, a capital letter. So a
command that ends with its N still hides its digits afterwards (`digits_stay_hidden_iff`).

A command begins at a caret, and in front of a caret the document can be cut
(`drop_forceInterpretationLine`). So what becomes of a command depends on the command alone, and
its characters tell which of the two cases it is: with a fourth parameter the flag is changed
(`BeforeFlag.printed`), without one the command stays as it is (`BeforeFlag.kept`).
-/

namespace LabelTemplate.Cleaning

open Text Command Scan

/-! ## Specification -/

/--
An EAN-13 command up to its third parameter: its orientation and its height, which may be empty,
with a comma behind each.
-/
inductive BeforeFlag : Text → Prop where
  | intro {orientation : Char} {height : Text} :
      orientation.isUpper = true → (∀ c ∈ height, isDecimal c = true) →
      BeforeFlag (ean13 ++ orientation :: ',' :: height ++ [','])

/-- A parameter is over here: at a comma, at the end of its command or at the end of the text. -/
def ParameterEnds (behind : Text) : Prop :=
  ∀ c ∈ behind.head?, c ∈ [',', '^', '~'] ∨ isBlank c = true

/-- At this place stands an EAN-13 command with this character as its third parameter. -/
def FlagAt (flag : Char) (t : Text) (i : Nat) : Prop :=
  ∃ front behind, BeforeFlag front ∧ ParameterEnds behind ∧ t.drop i = front ++ flag :: behind

/-- A comma and a capital letter: another parameter that can be a flag. -/
def AnotherFlag (behind : Text) : Prop :=
  ∃ above rest, above.isUpper = true ∧ behind = ',' :: above :: rest

/-- At this place stands an EAN-13 command with another flag behind the third parameter. -/
def FourthFlagAt (t : Text) (i : Nat) : Prop :=
  ∃ front flag behind, BeforeFlag front ∧ AnotherFlag behind ∧ t.drop i = front ++ flag :: behind

variable {front front' behind behind' t : Text} {flag flag' : Char} {i : Nat}

/-! ## Commands up to their flag -/

theorem aroundFlag_iff {back : Text} :
    AroundFlag front back ↔
      BeforeFlag front ∧ ∃ above, above.isUpper = true ∧ back = [',', above] := by
  constructor
  · rintro ⟨horientation, habove, hheight⟩
    exact ⟨.intro horientation hheight, _, habove, rfl⟩
  · rintro ⟨⟨horientation, hheight⟩, above, habove, rfl⟩
    exact .intro horientation habove hheight

namespace BeforeFlag

theorem aroundFlag (h : BeforeFlag front) : AroundFlag front [',', 'N'] :=
  aroundFlag_iff.mpr ⟨h, 'N', by decide, rfl⟩

theorem atCaret (h : BeforeFlag front) (rest : Text) : AtCaret (front ++ rest) :=
  h.aroundFlag.headed.1.isCommand.atCaret rest

/-- Where the flag stands, which it is and what follows it is determined by the text. -/
theorem append_inj (h : BeforeFlag front) (h' : BeforeFlag front')
    (heq : front ++ flag :: behind = front' ++ flag' :: behind') :
    front = front' ∧ flag = flag' ∧ behind = behind' := by
  have hfront : front = front' := by
    rcases List.prefix_or_prefix_of_prefix (List.prefix_append front (flag :: behind))
      (heq ▸ List.prefix_append front' (flag' :: behind')) with hpre | hpre
    · exact h.aroundFlag.eq_of_prefix h'.aroundFlag hpre
    · exact (h'.aroundFlag.eq_of_prefix h.aroundFlag hpre).symm
  subst hfront
  exact ⟨rfl, List.cons.inj (List.append_cancel_left heq)⟩

/-- In front of another flag the flag is changed. -/
theorem printed (h : BeforeFlag front) (hbehind : AnotherFlag behind) :
    forceInterpretationLine (front ++ 'N' :: behind) =
      front ++ 'Y' :: forceInterpretationLine behind := by
  obtain ⟨above, rest, habove, rfl⟩ := hbehind
  have hflag : AroundFlag front [',', above] := aroundFlag_iff.mpr ⟨h, above, habove, rfl⟩
  have hprinted := forceInterpretationLine_hidden hflag rest
  have hback := forceInterpretationLine_append_of_not_mem hflag.headed.2 rest
  simp only [List.append_assoc, List.cons_append, List.nil_append] at hprinted hback
  rw [hprinted, hback]

/-- With a flag that is no N, or with no other flag behind it, a command stays as it is. -/
theorem kept (h : BeforeFlag front) (hcaret : flag ≠ '^')
    (hflag : ¬ (flag = 'N' ∧ AnotherFlag behind)) :
    forceInterpretationLine (front ++ flag :: behind) =
      front ++ flag :: forceInterpretationLine behind := by
  have hno : ∀ front' back, AroundFlag front' back →
      ¬ front' ++ 'N' :: back <+: front ++ flag :: behind := by
    -- it would be this very command, so its flag would be an N with another flag behind it
    rintro front' back haround ⟨rest, hrest⟩
    obtain ⟨hfront', above, habove, rfl⟩ := aroundFlag_iff.mp haround
    rw [List.append_assoc] at hrest
    obtain ⟨-, rfl, rfl⟩ := hfront'.append_inj h hrest
    exact hflag ⟨rfl, above, rest, habove, rfl⟩
  -- behind its caret nothing of the command can begin another one
  obtain ⟨name, rfl, hname⟩ := h.aroundFlag.headed.1.isCommand
  have hbehind : '^' ∉ name ++ [flag] := by simp [hname, hcaret.symm]
  have hkept := forceInterpretationLine_append_of_not_mem hbehind behind
  simp only [List.append_assoc, List.cons_append, List.nil_append] at hkept hno ⊢
  rw [forceInterpretationLine_cons hno, hkept]

end BeforeFlag

/-! ## What becomes of a command -/

/-- What begins at a caret becomes what it would become by itself. -/
theorem drop_forceInterpretationLine (h : AtCaret (t.drop i)) :
    (forceInterpretationLine t).drop i = forceInterpretationLine (t.drop i) := by
  have hlength : (forceInterpretationLine (t.take i)).length = i := by
    have hne : t.drop i ≠ [] := List.ne_nil_of_mem h.mem
    rw [length_forceInterpretationLine, List.length_take]
    have := List.drop_eq_nil_iff.not.mp hne
    omega
  calc (forceInterpretationLine t).drop i
    _ = (forceInterpretationLine (t.take i ++ t.drop i)).drop i := by rw [List.take_append_drop]
    _ = (forceInterpretationLine (t.take i) ++ forceInterpretationLine (t.drop i)).drop i := by
      rw [forceInterpretationLine_append h]
    _ = forceInterpretationLine (t.drop i) := List.drop_left' hlength

theorem parameterEnds_of_sameOrPrinted {u v : Text} (h : List.Forall₂ SameOrPrinted u v) :
    ParameterEnds u ↔ ParameterEnds v := by
  cases h with
  | nil => rfl
  | cons hhead _ =>
      rcases hhead with rfl | ⟨rfl, rfl⟩
      · rfl
      · -- neither letter ends a parameter
        simp only [ParameterEnds, List.head?_cons, Option.mem_some_iff, forall_eq']
        decide

theorem parameterEnds_forceInterpretationLine :
    ParameterEnds (forceInterpretationLine behind) ↔ ParameterEnds behind :=
  (parameterEnds_of_sameOrPrinted (forall₂_sameOrPrinted behind)).symm

/-- Where a command stands afterwards there was one before, with the same flag or an N. -/
theorem exists_flagAt_of_flagAt (h : FlagAt flag (forceInterpretationLine t) i) :
    ∃ old, FlagAt old t i ∧ SameOrPrinted old flag := by
  obtain ⟨front, behind, hfront, hends, hdrop⟩ := h
  -- the texts correspond character by character, so what was there falls apart in the same way
  have hsame := List.forall₂_drop i (forall₂_sameOrPrinted t)
  rw [hdrop] at hsame
  obtain ⟨front', rest, ht, hsameFront, hrest⟩ := exists_append_of_forall₂ hsame
  obtain ⟨old, behind', hold, hbehind, rfl⟩ := List.forall₂_cons_right_iff.mp hrest
  have hback : List.Forall₂ SameOrPrinted [',', 'N'] [',', 'N'] :=
    List.forall₂_same.mpr fun _ _ => .inl rfl
  have hfront' := (aroundFlag_iff.mp (hfront.aroundFlag.of_sameOrPrinted hsameFront hback)).1
  exact ⟨old, ⟨front', behind', hfront', (parameterEnds_of_sameOrPrinted hbehind).mpr hends, ht⟩,
    hold⟩

/-- What stands behind the flag of a command is determined by the text. -/
theorem BeforeFlag.fourthFlagAt_iff (h : BeforeFlag front)
    (ht : t.drop i = front ++ flag :: behind) : FourthFlagAt t i ↔ AnotherFlag behind := by
  constructor
  · rintro ⟨front', flag', behind', h', hanother, ht'⟩
    obtain ⟨-, -, rfl⟩ := h.append_inj h' (ht.symm.trans ht')
    exact hanother
  · exact fun hanother => ⟨front, flag, behind, h, hanother, ht⟩

/-- An N with another flag behind it becomes a Y; any other flag stays. -/
theorem flagAt_of_flagAt (hcaret : flag ≠ '^') (h : FlagAt flag t i) :
    (flag = 'N' ∧ FourthFlagAt t i → FlagAt 'Y' (forceInterpretationLine t) i) ∧
      (¬ (flag = 'N' ∧ FourthFlagAt t i) → FlagAt flag (forceInterpretationLine t) i) := by
  obtain ⟨front, behind, hfront, hends, ht⟩ := h
  have hdrop := drop_forceInterpretationLine (ht ▸ hfront.atCaret _ : AtCaret (t.drop i))
  have hends' := parameterEnds_forceInterpretationLine.mpr hends
  rw [ht] at hdrop
  rw [hfront.fourthFlagAt_iff ht]
  constructor
  · rintro ⟨rfl, hanother⟩
    exact ⟨front, _, hfront, hends', hdrop.trans (hfront.printed hanother)⟩
  · exact fun hno => ⟨front, _, hfront, hends', hdrop.trans (hfront.kept hcaret hno)⟩

/-- At one place stands one flag at most. -/
theorem FlagAt.unique (h : FlagAt flag t i) (h' : FlagAt flag' t i) : flag = flag' := by
  obtain ⟨front, behind, hfront, -, ht⟩ := h
  obtain ⟨front', behind', hfront', -, ht'⟩ := h'
  exact (hfront.append_inj hfront' (ht.symm.trans ht')).2.1

/-! ## Which commands hide their digits afterwards -/

theorem flagAt_hiding_iff :
    FlagAt 'N' (forceInterpretationLine t) i ↔ FlagAt 'N' t i ∧ ¬ FourthFlagAt t i := by
  constructor
  · intro h
    obtain ⟨old, hold, rfl | ⟨-, hflag⟩⟩ := exists_flagAt_of_flagAt h
    · refine ⟨hold, fun hfourth => ?_⟩
      -- the flag would have been changed, and it is an N
      have hprinted := (flagAt_of_flagAt (by decide) hold).1 ⟨rfl, hfourth⟩
      exact absurd (h.unique hprinted) (by decide)
    · exact absurd hflag (by decide)
  · rintro ⟨hold, hno⟩
    exact (flagAt_of_flagAt (by decide) hold).2 fun h => hno h.2

theorem flagAt_printing_iff :
    FlagAt 'Y' (forceInterpretationLine t) i ↔
      FlagAt 'Y' t i ∨ FlagAt 'N' t i ∧ FourthFlagAt t i := by
  constructor
  · intro h
    obtain ⟨old, hold, rfl | ⟨rfl, -⟩⟩ := exists_flagAt_of_flagAt h
    · exact .inl hold
    · refine .inr ⟨hold, by_contra fun hno => ?_⟩
      have hkept := flagAt_hiding_iff.mpr ⟨hold, hno⟩
      exact absurd (h.unique hkept) (by decide)
  · rintro (hold | ⟨hold, hfourth⟩)
    · exact (flagAt_of_flagAt (by decide) hold).2 fun h => absurd h.1 (by decide)
    · exact (flagAt_of_flagAt (by decide) hold).1 ⟨rfl, hfourth⟩

/--
**No EAN-13 command hides its digits afterwards just if each that did has another flag behind it.**

A command hides its digits afterwards if it did so before and no other flag follows; it has them
printed if it had before, or if it hid them and another flag follows.
-/
theorem digits_stay_hidden_iff (t : Text) :
    ((∀ i, ¬ FlagAt 'N' (forceInterpretationLine t) i) ↔
        ∀ i, FlagAt 'N' t i → FourthFlagAt t i) ∧
      (∀ i, FlagAt 'N' (forceInterpretationLine t) i ↔ FlagAt 'N' t i ∧ ¬ FourthFlagAt t i) ∧
      ∀ i, FlagAt 'Y' (forceInterpretationLine t) i ↔
        FlagAt 'Y' t i ∨ FlagAt 'N' t i ∧ FourthFlagAt t i := by
  refine ⟨?_, fun _ => flagAt_hiding_iff, fun _ => flagAt_printing_iff⟩
  refine forall_congr' fun i => ?_
  rw [flagAt_hiding_iff, not_and, not_not]

/-- A bar code whose command ends with its flag: it is found, and its digits stay hidden. -/
theorem last_flag_stays_hidden :
    let t := "^XA^FT10,20^BEN,50,N^FD4006381333931^FS^XZ".toList
    let r : Record := ⟨0, 3, ⟨.barcode, ['1', '0'], ['2', '0'], "^BEN,50,N".toList,
      "4006381333931".toList⟩⟩
    r ∈ records .barcode (forceInterpretationLine t) ∧
      FlagAt 'N' (forceInterpretationLine t) (r.start + r.statement.coordinatesEnd) := by
  intro t r
  have hheight : ∀ c ∈ ['5', '0'], isDecimal c = true := by
    rw [List.forall_mem_cons, List.forall_mem_singleton]
    decide
  have hfront : BeforeFlag (ean13 ++ 'N' :: ',' :: ['5', '0'] ++ [',']) :=
    .intro (by decide) hheight
  have hends : ParameterEnds "^FD4006381333931^FS^XZ".toList := by
    intro c hc
    obtain rfl := Option.some.inj hc
    exact .inl (by decide)
  exact ⟨by decide, _, _, hfront, hends, by decide⟩

end LabelTemplate.Cleaning
