import LabelTemplate.Proofs.Cleaning.Markers

/-!
# Underscores inside data and outside

Inside field data, from a data command to the next end of a statement, the code of the underscore
becomes an underscore; outside nothing changes. `restoreFrom` is this with the side on which a
text begins as a parameter, so that a statement can be followed through it that begins in the data
of another one.

All that is said about the beginning of a restored text comes from `restoreFrom_step`: a
character stays, and the two digits of a code behind it may go.
-/

namespace LabelTemplate.Cleaning

open Text Command Scan Statement

/-- A text with underscores made out of their codes. -/
def restore (t : Text) : Text := replaceAll escapedUnderscore ['_'] t

/-- What becomes of a text that begins inside data: it is restored up to where the data ends. -/
def restoreInData (t : Text) : Text :=
  match cut? Command.fieldEnd t with
  | some (data, rest) => restore data ++ (Command.fieldEnd ++ restoreUnderscores rest)
  | none => restore t

/-- What becomes of a text that begins inside data or outside. -/
def restoreFrom (inData : Bool) (t : Text) : Text :=
  if inData then restoreInData t else restoreUnderscores t

/-! ## Restoring a text -/

@[simp] theorem restore_nil : restore [] = [] := rfl

theorem restore_cons {c : Char} {cs : Text} (h : ¬ escapedUnderscore <+: c :: cs) :
    restore (c :: cs) = c :: restore cs := replaceAll_cons h

theorem restore_cons_of_ne {c : Char} (h : c ≠ '_') (cs : Text) :
    restore (c :: cs) = c :: restore cs :=
  restore_cons fun hpre => h (List.cons_prefix_cons.mp hpre).1.symm

theorem restore_escaped (t : Text) : restore (escapedUnderscore ++ t) = '_' :: restore t :=
  replaceAll_pattern (by decide) t

/-- A code does not go over a place behind which none of its digits stands. -/
theorem not_code_prefix_append {w z : Text} (hno : ¬ escapedUnderscore <+: w) (hw : w ≠ [])
    (hz : ∀ c ∈ z.head?, c ≠ '5' ∧ c ≠ 'f') : ¬ escapedUnderscore <+: w ++ z := by
  intro hpre
  rcases List.prefix_or_prefix_of_prefix hpre (List.prefix_append w z) with hin | ⟨b, hb⟩
  · exact hno hin
  · cases b with
    | nil =>
        rw [List.append_nil] at hb
        exact hno (hb ▸ List.prefix_refl _)
    | cons d b =>
        -- what is left of the code begins with one of its digits
        rw [← hb, List.prefix_append_right_inj] at hpre
        obtain ⟨u, rfl⟩ := hpre
        obtain ⟨c, cs, rfl⟩ := List.exists_cons_of_ne_nil hw
        have hd : d ∈ ['5', 'f'] := by
          rw [← (List.cons.inj hb).2]
          simp
        have hhead := hz d rfl
        simp [hhead] at hd

theorem restore_append {z : Text} (hz : ∀ c ∈ z.head?, c ≠ '5' ∧ c ≠ 'f') (w : Text) :
    restore (w ++ z) = restore w ++ restore z := by
  refine replace_append (exact_literal (by decide)) fun u hu _ => ?_
  by_cases hpre : escapedUnderscore <+: u
  · have hpre' := hpre.trans (List.prefix_append u z)
    simp [literal, hpre, hpre']
  · have hpre' := not_code_prefix_append hpre hu hz
    simp [literal, hpre, hpre']

theorem mem_of_mem_restore {c : Char} {t : Text} (h : c ∈ restore t) : c ∈ t := by
  have hne : escapedUnderscore ≠ [] := by decide
  induction t using induction_on_pattern hne with
  | nil => exact h
  | plain d cs hno ih =>
      rw [restore_cons hno, List.mem_cons] at h
      rcases h with rfl | h
      · exact List.mem_cons_self
      · exact List.mem_cons_of_mem d (ih h)
  | occurrence t ih =>
      rw [restore_escaped, List.mem_cons] at h
      rcases h with rfl | h
      · simp [escapedUnderscore]
      · exact List.mem_append_right _ (ih h)

/-! ## The two sides of a data command -/

theorem fieldData_eq_some_iff {t data : Text} {n : Nat} :
    fieldData t = some (data, n) ↔ ∃ value rest,
      t = Command.fieldData ++ (value ++ (Command.fieldEnd ++ rest)) ∧
        ¬ Command.fieldEnd <:+: value ∧
        data = Command.fieldData ++ value ++ Command.fieldEnd ∧ n = data.length := by
  unfold fieldData
  constructor
  · intro h
    obtain ⟨behind, hbehind, h⟩ := Option.bind_eq_some_iff.mp h
    obtain ⟨⟨value, rest⟩, hcut, h⟩ := Option.bind_eq_some_iff.mp h
    obtain ⟨rfl, rfl⟩ := Prod.mk.inj (Option.some.inj h)
    obtain rfl := after?_eq_some_iff.mp hbehind
    obtain ⟨rfl, hvalue⟩ := (cut?_eq_some_iff isCommand_fieldEnd).mp hcut
    exact ⟨value, rest, by rw [List.append_assoc], hvalue, rfl, rfl⟩
  · rintro ⟨value, rest, rfl, hvalue, rfl, rfl⟩
    have hcut : cut? Command.fieldEnd (value ++ (Command.fieldEnd ++ rest)) = some (value, rest) :=
      (cut?_eq_some_iff isCommand_fieldEnd).mpr ⟨by rw [List.append_assoc], hvalue⟩
    rw [after?_eq_some_iff.mpr rfl]
    simp only [Option.bind_eq_bind, Option.bind_some, hcut]
    rfl

theorem fieldData_eq_none_iff {t : Text} :
    fieldData t = none ↔
      ∀ z, t = Command.fieldData ++ z → ¬ Command.fieldEnd <:+: z := by
  constructor
  · rintro h z rfl hend
    obtain ⟨⟨value, rest⟩, hcut⟩ := Option.isSome_iff_exists.mp
      ((contains_iff isCommand_fieldEnd.ne_nil).mpr hend)
    obtain ⟨rfl, hvalue⟩ := (cut?_eq_some_iff isCommand_fieldEnd).mp hcut
    rw [fieldData_eq_some_iff.mpr ⟨value, rest, by rw [List.append_assoc], hvalue, rfl, rfl⟩] at h
    exact absurd h (by simp)
  · refine fun h => Option.eq_none_iff_forall_ne_some.mpr fun ⟨data, n⟩ hsome => ?_
    obtain ⟨value, rest, rfl, _⟩ := fieldData_eq_some_iff.mp hsome
    exact h _ rfl (List.infix_append' _ _ _)

theorem exact_fieldData : Exact fieldData := by
  intro t data n h
  obtain ⟨value, rest, rfl, _, rfl, rfl⟩ := fieldData_eq_some_iff.mp h
  simp only [Command.fieldData, List.length_append, List.length_cons]
  omega

theorem restoreUnderscores_cons {c : Char} {cs : Text} (h : ¬ Command.fieldData <+: c :: cs) :
    restoreUnderscores (c :: cs) = c :: restoreUnderscores cs := by
  refine replace_of_none (fieldData_eq_none_iff.mpr fun z hz => ?_)
  exact absurd (hz ▸ List.prefix_append _ _) h

/-- Data without an end are passed over. -/
theorem restoreUnderscores_fieldData {z : Text} (h : ¬ Command.fieldEnd <:+: z) :
    restoreUnderscores (Command.fieldData ++ z) = Command.fieldData ++ restoreUnderscores z := by
  have hnone : fieldData ('^' :: 'F' :: 'D' :: z) = none :=
    fieldData_eq_none_iff.mpr fun z' hz => by
      obtain rfl := (List.append_right_inj Command.fieldData).mp hz
      exact h
  change restoreUnderscores ('^' :: 'F' :: 'D' :: z) = _
  rw [restoreUnderscores, replace_of_none hnone, ← restoreUnderscores,
    restoreUnderscores_cons (by simp [Command.fieldData]),
    restoreUnderscores_cons (by simp [Command.fieldData])]
  rfl

/-- Data up to their end are restored. -/
theorem restoreUnderscores_data {value : Text} (h : ¬ Command.fieldEnd <:+: value) (rest : Text) :
    restoreUnderscores (Command.fieldData ++ (value ++ (Command.fieldEnd ++ rest))) =
      Command.fieldData ++ (restore value ++ (Command.fieldEnd ++ restoreUnderscores rest)) := by
  have hsome := fieldData_eq_some_iff.mpr ⟨value, rest, rfl, h, rfl, rfl⟩
  have hdrop : (Command.fieldData ++ (value ++ (Command.fieldEnd ++ rest))).drop
      (Command.fieldData ++ value ++ Command.fieldEnd).length = rest := by
    rw [← List.append_assoc, ← List.append_assoc, List.drop_left]
  have hcaret : ∀ c ∈ Command.fieldEnd.head?, c ≠ '5' ∧ c ≠ 'f' := by
    intro c hc
    obtain rfl := Option.some.inj hc
    decide
  have hdata : replaceAll escapedUnderscore ['_']
      (Command.fieldData ++ value ++ Command.fieldEnd) =
        Command.fieldData ++ (restore value ++ Command.fieldEnd) := by
    change restore (Command.fieldData ++ value ++ Command.fieldEnd) = _
    rw [restore_append hcaret]
    change restore ('^' :: 'F' :: 'D' :: value) ++ Command.fieldEnd = _
    rw [restore_cons_of_ne (by decide), restore_cons_of_ne (by decide),
      restore_cons_of_ne (by decide)]
    rfl
  rw [restoreUnderscores, replace_of_some exact_fieldData hsome, hdrop, hdata,
    ← restoreUnderscores]
  simp

/-! ## Going over a text from one side or the other -/

@[simp] theorem restoreFrom_nil (inData : Bool) : restoreFrom inData [] = [] := by
  cases inData <;> rfl

/-- The end of a statement is the end of data. -/
theorem restoreFrom_fieldEnd (inData : Bool) (z : Text) :
    restoreFrom inData (Command.fieldEnd ++ z) =
      Command.fieldEnd ++ restoreFrom false z := by
  cases inData with
  | true =>
      have hcut : cut? Command.fieldEnd (Command.fieldEnd ++ z) = some ([], z) :=
        (cut?_eq_some_iff isCommand_fieldEnd).mpr ⟨rfl, by decide⟩
      change restoreInData (Command.fieldEnd ++ z) = _
      rw [restoreInData, hcut]
      rfl
  | false =>
      change restoreUnderscores ('^' :: 'F' :: 'S' :: z) = _
      rw [restoreUnderscores_cons (by simp [Command.fieldData]),
        restoreUnderscores_cons (by simp [Command.fieldData]),
        restoreUnderscores_cons (by simp [Command.fieldData])]
      rfl

/-- Inside data a character stays if it ends neither them nor begins a code. -/
theorem restoreInData_cons {c : Char} {cs : Text} (hend : ¬ Command.fieldEnd <+: c :: cs)
    (hcode : ¬ escapedUnderscore <+: c :: cs) :
    restoreInData (c :: cs) = c :: restoreInData cs := by
  have hcut : cut? Command.fieldEnd (c :: cs) =
      (cut? Command.fieldEnd cs).map fun found => (c :: found.1, found.2) := by
    rw [cut?, if_neg (by simpa using hend)]
  rw [restoreInData, restoreInData, hcut]
  cases hrest : cut? Command.fieldEnd cs with
  | none => exact restore_cons hcode
  | some found =>
      obtain ⟨data, rest⟩ := found
      obtain ⟨rfl, _⟩ := (cut?_eq_some_iff isCommand_fieldEnd).mp hrest
      have hdata : ¬ escapedUnderscore <+: c :: data := fun hpre =>
        hcode (hpre.trans ⟨Command.fieldEnd ++ rest, by simp⟩)
      simp only [Option.map_some, restore_cons hdata, List.cons_append]

theorem restoreInData_escaped (z : Text) :
    restoreInData (escapedUnderscore ++ z) = '_' :: restoreInData z := by
  have hcut : cut? Command.fieldEnd (escapedUnderscore ++ z) =
      (cut? Command.fieldEnd z).map fun found => (escapedUnderscore ++ found.1, found.2) := by
    change cut? Command.fieldEnd ('_' :: '5' :: 'f' :: z) = _
    rw [cut?, if_neg (by simp [Command.fieldEnd]), cut?, if_neg (by simp [Command.fieldEnd]), cut?,
      if_neg (by simp [Command.fieldEnd]), Option.map_map, Option.map_map]
    rfl
  rw [restoreInData, restoreInData, hcut]
  cases cut? Command.fieldEnd z with
  | none => exact restore_escaped z
  | some found =>
      simp only [Option.map_some, restore_escaped, List.cons_append]

/-- A character stays if it begins none of what the two sides are about. -/
theorem restoreFrom_cons {inData : Bool} {c : Char} {cs : Text}
    (hdata : ¬ Command.fieldData <+: c :: cs) (hend : ¬ Command.fieldEnd <+: c :: cs)
    (hcode : inData = true → ¬ escapedUnderscore <+: c :: cs) :
    restoreFrom inData (c :: cs) = c :: restoreFrom inData cs := by
  cases inData with
  | true => exact restoreInData_cons hend (hcode rfl)
  | false => exact restoreUnderscores_cons hdata

theorem restoreFrom_cons_of_ne {inData : Bool} {c : Char} (hcaret : c ≠ '^')
    (hcode : inData = true → c ≠ '_') (cs : Text) :
    restoreFrom inData (c :: cs) = c :: restoreFrom inData cs :=
  restoreFrom_cons (fun h => hcaret (List.cons_prefix_cons.mp h).1.symm)
    (fun h => hcaret (List.cons_prefix_cons.mp h).1.symm)
    fun hin h => hcode hin (List.cons_prefix_cons.mp h).1.symm

/-- A data command is the beginning of data, if they end. -/
theorem restoreFrom_fieldData (inData : Bool) (z : Text) :
    restoreFrom inData (Command.fieldData ++ z) =
      Command.fieldData ++ restoreFrom (inData || contains Command.fieldEnd z) z := by
  cases inData with
  | true =>
      change restoreInData ('^' :: 'F' :: 'D' :: z) = _
      rw [restoreInData_cons (by simp [Command.fieldEnd]) (by simp [escapedUnderscore]),
        restoreInData_cons (by simp [Command.fieldEnd]) (by simp [escapedUnderscore]),
        restoreInData_cons (by simp [Command.fieldEnd]) (by simp [escapedUnderscore])]
      rfl
  | false =>
      change restoreUnderscores (Command.fieldData ++ z) = _
      cases hcut : cut? Command.fieldEnd z with
      | none =>
          have hno : contains Command.fieldEnd z = false := by rw [contains, hcut]; rfl
          rw [restoreUnderscores_fieldData
            ((cut?_eq_none_iff isCommand_fieldEnd.ne_nil).mp hcut), hno]
          rfl
      | some found =>
          obtain ⟨value, rest⟩ := found
          have hin : contains Command.fieldEnd z = true := by rw [contains, hcut]; rfl
          have hdata : restoreFrom true z =
              restore value ++ (Command.fieldEnd ++ restoreUnderscores rest) := by
            change restoreInData z = _
            rw [restoreInData, hcut]
          obtain ⟨hz, hvalue⟩ := (cut?_eq_some_iff isCommand_fieldEnd).mp hcut
          rw [Bool.false_or, hin, hdata, hz, List.append_assoc, restoreUnderscores_data hvalue]

/--
**One step.** A character stays, and what follows it is gone over from one side or the other, but
for the two digits behind an underscore that belong to its code.
-/
theorem restoreFrom_step (inData : Bool) (c : Char) (cs : Text) :
    ∃ inData' cs', restoreFrom inData (c :: cs) = c :: restoreFrom inData' cs' ∧
      (cs' = cs ∨ c = '_' ∧ cs = '5' :: 'f' :: cs') := by
  have hF : ∀ b, b = true → 'F' ≠ '_' := fun _ _ => by decide
  by_cases hdata : Command.fieldData <+: c :: cs
  · obtain ⟨z, hz⟩ := hdata
    obtain ⟨rfl, rfl⟩ := List.cons.inj (show '^' :: 'F' :: 'D' :: z = c :: cs from hz)
    refine ⟨inData || contains Command.fieldEnd z, 'F' :: 'D' :: z, ?_, Or.inl rfl⟩
    rw [← hz, restoreFrom_fieldData, restoreFrom_cons_of_ne (by decide) (hF _),
      restoreFrom_cons_of_ne (by decide) fun _ => by decide]
    rfl
  · by_cases hend : Command.fieldEnd <+: c :: cs
    · obtain ⟨z, hz⟩ := hend
      obtain ⟨rfl, rfl⟩ := List.cons.inj (show '^' :: 'F' :: 'S' :: z = c :: cs from hz)
      refine ⟨false, 'F' :: 'S' :: z, ?_, Or.inl rfl⟩
      rw [← hz, restoreFrom_fieldEnd, restoreFrom_cons_of_ne (by decide) (hF _),
        restoreFrom_cons_of_ne (by decide) fun _ => by decide]
      rfl
    · by_cases hcode : inData = true ∧ escapedUnderscore <+: c :: cs
      · obtain ⟨rfl, z, hz⟩ := hcode
        obtain ⟨rfl, rfl⟩ := List.cons.inj (show '_' :: '5' :: 'f' :: z = c :: cs from hz)
        exact ⟨true, z, restoreInData_escaped z, Or.inr ⟨rfl, rfl⟩⟩
      · exact ⟨inData, cs, restoreFrom_cons hdata hend fun hin hpre => hcode ⟨hin, hpre⟩,
          Or.inl rfl⟩

/-! ## What is found at the beginning of a restored text -/

theorem head?_restoreFrom (inData : Bool) (t : Text) :
    (restoreFrom inData t).head? = t.head? := by
  cases t with
  | nil => rw [restoreFrom_nil]
  | cons c cs =>
      obtain ⟨_, _, h, _⟩ := restoreFrom_step inData c cs
      rw [h]
      rfl

/-- To restore brings in nothing that has no underscore, and hides nothing. -/
theorem prefix_restoreFrom_iff {p : Text} (hp : '_' ∉ p) (inData : Bool) (t : Text) :
    p <+: restoreFrom inData t ↔ p <+: t := by
  induction p generalizing inData t with
  | nil => simp
  | cons d p ih =>
      rw [List.mem_cons, not_or] at hp
      cases t with
      | nil => rw [restoreFrom_nil]
      | cons c cs =>
          obtain ⟨inData', cs', h, hcs | ⟨rfl, _⟩⟩ := restoreFrom_step inData c cs
          · rw [h, List.cons_prefix_cons, List.cons_prefix_cons, ih hp.2, hcs]
          · rw [h, List.cons_prefix_cons, List.cons_prefix_cons]
            simp [Ne.symm hp.1]

theorem infix_of_infix_restoreFrom {p : Text} (hp : '_' ∉ p) {inData : Bool} {t : Text}
    (h : p <:+: restoreFrom inData t) : p <:+: t := by
  induction hlength : t.length using Nat.strongRecOn generalizing inData t with
  | ind n ih =>
    cases t with
    | nil => rwa [restoreFrom_nil] at h
    | cons c cs =>
        obtain ⟨inData', cs', hstep, hcs⟩ := restoreFrom_step inData c cs
        rw [hstep] at h
        have hsuffix : cs' <:+ cs := by
          rcases hcs with rfl | ⟨_, rfl⟩
          · exact List.suffix_refl _
          · exact List.suffix_append ['5', 'f'] cs'
        rcases List.infix_cons_iff.mp h with hhere | hthere
        · rw [← hstep, prefix_restoreFrom_iff hp] at hhere
          exact hhere.isInfix
        · have hlt : cs'.length < n := by
            have := hsuffix.length_le
            rw [← hlength, List.length_cons]
            omega
          exact (ih _ hlt hthere rfl).trans (hsuffix.isInfix.trans (List.infix_cons List.infix_rfl))

/-- A command stays as it is, unless one of the two sides is about it. -/
theorem restoreFrom_command {word p : Text} (h : Headed word p) (hp : '_' ∉ p)
    (hword : word ∉ [Command.fieldData, Command.fieldEnd]) (inData : Bool) (z : Text) :
    restoreFrom inData (p ++ z) = p ++ restoreFrom inData z := by
  have hdata : ¬ Command.fieldData <+: p ++ z := fun hpre =>
    hword (by simp [h.eq_of_prefix rfl hpre])
  have hend : ¬ Command.fieldEnd <+: p ++ z := fun hpre =>
    hword (by simp [h.eq_of_prefix rfl hpre])
  obtain ⟨name, rfl, hname⟩ := h.isCommand
  have hrun : ∀ u : Text, '^' ∉ u → '_' ∉ u →
      restoreFrom inData (u ++ z) = u ++ restoreFrom inData z := by
    intro u hcaret hcode
    induction u with
    | nil => rfl
    | cons d u ih =>
        rw [List.mem_cons, not_or] at hcaret hcode
        rw [List.cons_append, restoreFrom_cons_of_ne (Ne.symm hcaret.1) fun _ => Ne.symm hcode.1,
          ih hcaret.2 hcode.2, List.cons_append]
  rw [List.mem_cons, not_or] at hp
  rw [List.cons_append] at hdata hend ⊢
  rw [restoreFrom_cons hdata hend, hrun name hname hp.2, List.cons_append]
  exact fun _ hpre => absurd (List.cons_prefix_cons.mp hpre).1 (by decide)

theorem after?_restoreFrom {word p : Text} (h : Headed word p) (hp : '_' ∉ p)
    (hword : word ∉ [Command.fieldData, Command.fieldEnd]) (inData : Bool) (t : Text) :
    after? p (restoreFrom inData t) = (after? p t).map (restoreFrom inData) := by
  cases hafter : after? p t with
  | none =>
      rw [after?_eq_none_iff] at hafter
      rw [Option.map_none, after?_eq_none_iff, prefix_restoreFrom_iff hp]
      exact hafter
  | some z =>
      rw [after?_eq_some_iff] at hafter
      rw [hafter, restoreFrom_command h hp hword, Option.map_some, after?_eq_some_iff]

end LabelTemplate.Cleaning
