import LabelTemplate.Cleaning
import LabelTemplate.Proofs.Scan.Rewriting
import LabelTemplate.Proofs.Statement.Grammar
import LabelTemplate.Proofs.Text.Trim

/-!
# What is taken out with deleted objects

A format that begins by deleting a stored object is taken out up to the first place behind the
command where a statement and, but for blanks, a format end together (`Housekeeping`). What stands
before that place is not looked at. So if the format goes on with another command behind its first
statement, all is taken out up to where some later format ends right behind a statement.

`housekeeping_is_one_format` says when no more than one format without fields is taken out: just if
the data has no format command and no positioning command. `label_is_taken_out` is a document in
which a label goes along.
-/

namespace LabelTemplate.Cleaning

open Text Command Scan Statement

/-! ## Specification -/

/-- A statement ends somewhere in the text, and behind it, with only blanks between, a format. -/
def EndsFormat (t : Text) : Prop :=
  ∃ gap, (∀ c ∈ gap, isBlank c = true) ∧ fieldEnd ++ (gap ++ formatEnd) <:+: t

/--
A text that is taken out. It begins with a format start and a delete command; `data` is what comes
behind that up to the first end of a statement that the end of a format follows.
-/
inductive Housekeeping (data : Text) : Text → Prop where
  | intro {gap gap' gap'' : Text} :
      (∀ c ∈ gap, isBlank c = true) → (∀ c ∈ gap', isBlank c = true) →
      (∀ c ∈ gap'', isBlank c = true) → ¬ EndsFormat data →
      Housekeeping data (formatStart ++ (gap ++ (deleteObject ++ (data ++
        (fieldEnd ++ (gap' ++ (formatEnd ++ gap'')))))))

/-- A text with one format start and one format end, in which no field is positioned. -/
def IsSessionFormat (t : Text) : Prop :=
  occurrences formatStart t = 1 ∧ occurrences formatEnd t = 1 ∧ ¬ fieldOrigin <:+: t ∧
    ¬ fieldTypeset <:+: t

/-! ## The end of a format -/

theorem not_mem_of_isBlank {gap : Text} (h : ∀ c ∈ gap, isBlank c = true) : '^' ∉ gap :=
  fun hc => absurd (h _ hc) (by decide)

theorem behindFormat?_eq_some {t rest : Text} (h : behindFormat? t = some rest) :
    ∃ gap gap', t = fieldEnd ++ (gap ++ (formatEnd ++ (gap' ++ rest))) ∧
      (∀ c ∈ gap, isBlank c = true) ∧ ∀ c ∈ gap', isBlank c = true := by
  obtain ⟨behind, hbehind, h⟩ := Option.bind_eq_some_iff.mp h
  obtain ⟨behind', hbehind', h⟩ := Option.bind_eq_some_iff.mp h
  obtain rfl := Option.some.inj h
  obtain rfl := after?_eq_some_iff.mp hbehind
  obtain ⟨gap, hgap, hblank⟩ := exists_append_trimStart behind
  obtain ⟨gap', hgap', hblank'⟩ := exists_append_trimStart behind'
  rw [after?_eq_some_iff.mp hbehind'] at hgap
  exact ⟨gap, gap', by rw [hgap, ← hgap'], hblank, hblank'⟩

theorem behindFormat?_ne_none {gap : Text} (h : ∀ c ∈ gap, isBlank c = true) (rest : Text) :
    behindFormat? (fieldEnd ++ (gap ++ (formatEnd ++ rest))) ≠ none := by
  have htrim : trimStart (gap ++ (formatEnd ++ rest)) = formatEnd ++ rest :=
    trimStart_append h fun c hc => by
      obtain rfl := Option.some.inj hc
      decide
  simp [behindFormat?, after?_eq_some_iff.mpr rfl, htrim]

theorem EndsFormat.of_infix {t u : Text} (h : EndsFormat t) (ht : t <:+: u) : EndsFormat u := by
  obtain ⟨gap, hgap, hin⟩ := h
  exact ⟨gap, hgap, hin.trans ht⟩

theorem behindFirstFormat?_ne_none {t : Text} (h : EndsFormat t) : behindFirstFormat? t ≠ none := by
  obtain ⟨gap, hgap, hin⟩ := h
  induction t with
  | nil => exact absurd (List.infix_nil.mp hin) (by simp [fieldEnd])
  | cons c cs ih =>
      rw [behindFirstFormat?, ne_eq, Option.or_eq_none_iff, not_and_or]
      rcases List.infix_cons_iff.mp hin with ⟨rest, hrest⟩ | hin
      · rw [List.append_assoc, List.append_assoc] at hrest
        rw [← hrest]
        exact .inl (behindFormat?_ne_none hgap rest)
      · exact .inr (ih hin)

/-- The end that is found is the first one. -/
theorem behindFirstFormat?_eq_some {t rest : Text} (h : behindFirstFormat? t = some rest) :
    ∃ data u, t = data ++ u ∧ behindFormat? u = some rest ∧ ¬ EndsFormat data := by
  induction t with
  | nil => exact absurd h (by simp [behindFirstFormat?])
  | cons c cs ih =>
      cases hhere : behindFormat? (c :: cs) with
      | some rest' =>
          rw [behindFirstFormat?, hhere] at h
          obtain rfl : rest' = rest := Option.some.inj h
          refine ⟨[], c :: cs, rfl, hhere, ?_⟩
          rintro ⟨gap, _, hin⟩
          exact absurd (List.infix_nil.mp hin) (by simp [fieldEnd])
      | none =>
          rw [behindFirstFormat?, hhere] at h
          obtain ⟨data, u, rfl, hu, hno⟩ := ih h
          refine ⟨c :: data, u, rfl, hu, ?_⟩
          rintro ⟨gap, hgap, hin⟩
          rcases List.infix_cons_iff.mp hin with ⟨back, hback⟩ | hin
          · refine behindFormat?_ne_none hgap (back ++ u) ?_
            rw [← hhere, ← List.cons_append, ← hback]
            simp
          · exact hno ⟨gap, hgap, hin⟩

/-! ## What is taken out -/

theorem housekeeping_eq_some {t : Text} {n : Nat} (h : housekeeping t = some ((), n)) :
    ∃ data raw rest, t = raw ++ rest ∧ n = raw.length ∧ Housekeeping data raw := by
  obtain ⟨behind, hbehind, h⟩ := Option.bind_eq_some_iff.mp h
  obtain ⟨behind', hbehind', h⟩ := Option.bind_eq_some_iff.mp h
  obtain ⟨rest, hrest, h⟩ := Option.bind_eq_some_iff.mp h
  obtain ⟨_, rfl⟩ := Prod.mk.inj (Option.some.inj h)
  obtain rfl := after?_eq_some_iff.mp hbehind
  obtain ⟨gap, hgap, hblank⟩ := exists_append_trimStart behind
  rw [after?_eq_some_iff.mp hbehind'] at hgap
  obtain ⟨data, u, rfl, hu, hfirst⟩ := behindFirstFormat?_eq_some hrest
  obtain ⟨gap', gap'', rfl, hblank', hblank''⟩ := behindFormat?_eq_some hu
  refine ⟨data, _, rest, ?_, ?_, .intro hblank hblank' hblank'' hfirst⟩
  · rw [hgap]
    simp
  · rw [hgap]
    simp only [List.length_append]
    omega

theorem exact_housekeeping : Exact housekeeping := by
  intro t _ n h
  obtain ⟨data, raw, rest, rfl, rfl, hraw⟩ := housekeeping_eq_some h
  cases hraw
  simp only [List.length_append, formatStart, List.length_cons]
  omega

theorem exists_housekeeping {t raw : Text} (h : .hit () raw ∈ pieces housekeeping t) :
    ∃ data, Housekeeping data raw := by
  obtain ⟨rest, _, hsome⟩ := exists_of_hit_mem_pieces exact_housekeeping h
  obtain ⟨data, raw', rest', heq, hlength, hraw⟩ := housekeeping_eq_some hsome
  obtain rfl : raw = raw' := (List.append_inj heq hlength).1
  exact ⟨data, hraw⟩

theorem Housekeeping.endsFormat {data raw : Text} (h : Housekeeping data raw) : EndsFormat raw := by
  cases h with
  | @intro gap gap' gap'' _ hgap' _ _ =>
      exact ⟨gap', hgap', formatStart ++ (gap ++ (deleteObject ++ data)), gap'', by simp⟩

/-- Only the data can have more commands than the format start and the format end. -/
theorem Housekeeping.occurrences_eq {data raw p : Text} (h : Housekeeping data raw)
    (hp : IsCommand p) (hlength : p.length = 3) :
    occurrences p raw = (if p = formatStart then 1 else 0) + (if p = deleteObject then 1 else 0) +
      occurrences p data + (if p = fieldEnd then 1 else 0) + (if p = formatEnd then 1 else 0) := by
  cases h with
  | intro hgap hgap' hgap'' _ =>
      rw [hp.occurrences_command_append isCommand_formatStart hlength,
        hp.occurrences_append_of_not_mem (not_mem_of_isBlank hgap),
        hp.occurrences_command_append isCommand_deleteObject hlength,
        hp.occurrences_append (isCommand_fieldEnd.atCaret _),
        hp.occurrences_command_append isCommand_fieldEnd hlength,
        hp.occurrences_append_of_not_mem (not_mem_of_isBlank hgap'),
        hp.occurrences_command_append isCommand_formatEnd hlength,
        (occurrences_eq_zero_iff hp.ne_nil).mpr
          (hp.not_infix_of_not_mem (not_mem_of_isBlank hgap''))]
      omega

/--
**What is taken out is one format without fields just if the data is free of four commands.**

It is a format that begins by deleting a stored object, up to the first place behind that where a
statement and a format end together. There is exactly one format start, one format end and no field
in it if and only if the data in between has no format start, no format end and no positioning
command.
-/
theorem housekeeping_is_one_format {t raw : Text} (h : .hit () raw ∈ pieces housekeeping t) :
    ∃ data, Housekeeping data raw ∧
      (IsSessionFormat raw ↔
        ∀ p ∈ [formatStart, formatEnd, fieldOrigin, fieldTypeset], ¬ p <:+: data) := by
  obtain ⟨rest, _, hrec⟩ := exists_of_hit_mem_pieces exact_housekeeping h
  obtain ⟨data, raw', rest', heq, hlength, hraw⟩ := housekeeping_eq_some hrec
  obtain rfl : raw = raw' := (List.append_inj heq hlength).1
  refine ⟨data, hraw, ?_⟩
  have hstart : occurrences formatStart raw = 1 + occurrences formatStart data := by
    rw [hraw.occurrences_eq isCommand_formatStart rfl, if_pos rfl, if_neg (by decide),
      if_neg (by decide), if_neg (by decide)]
    rfl
  have hend : occurrences formatEnd raw = occurrences formatEnd data + 1 := by
    rw [hraw.occurrences_eq isCommand_formatEnd rfl, if_neg (by decide), if_neg (by decide),
      if_neg (by decide), if_pos rfl]
    omega
  have hfield : ∀ p, IsCommand p → p.length = 3 →
      p ∉ [formatStart, deleteObject, fieldEnd, formatEnd] → (p <:+: raw ↔ p <:+: data) := by
    intro p hp hlength hother
    simp only [List.mem_cons, List.not_mem_nil, or_false, not_or] at hother
    rw [← not_iff_not, ← occurrences_eq_zero_iff hp.ne_nil, ← occurrences_eq_zero_iff hp.ne_nil,
      hraw.occurrences_eq hp hlength, if_neg hother.1, if_neg hother.2.1, if_neg hother.2.2.1,
      if_neg hother.2.2.2]
    omega
  have hstart' := occurrences_eq_zero_iff (t := data) isCommand_formatStart.ne_nil
  have hend' := occurrences_eq_zero_iff (t := data) isCommand_formatEnd.ne_nil
  rw [IsSessionFormat, hstart, hend, hfield _ isCommand_fieldOrigin rfl (by decide),
    hfield _ isCommand_fieldTypeset rfl (by decide)]
  simp only [List.forall_mem_cons, List.not_mem_nil, false_implies, implies_true, and_true,
    ← hstart', ← hend']
  rw [show 1 + occurrences formatStart data = 1 ↔ occurrences formatStart data = 0 by omega,
    show occurrences formatEnd data + 1 = 1 ↔ occurrences formatEnd data = 0 by omega]

/-- A format that deletes an object and does nothing else. -/
theorem housekeeping_is_one_format_of_delete :
    let raw := "^XA\n^IDR:A.GRF^FS\n^XZ\n".toList
    .hit () raw ∈ pieces housekeeping raw ∧ IsSessionFormat raw ∧ ∃ data, Housekeeping data raw ∧
      ∀ p ∈ [formatStart, formatEnd, fieldOrigin, fieldTypeset], ¬ p <:+: data := by
  intro raw
  have hwhole : housekeeping raw = some ((), raw.length) := by decide +kernel
  have hhit : .hit () raw ∈ pieces housekeeping raw := by
    rw [pieces_of_whole hwhole (by decide +kernel)]
    exact List.mem_singleton_self _
  have hone : IsSessionFormat raw := by
    rw [IsSessionFormat]
    decide +kernel
  obtain ⟨data, hraw, hiff⟩ := housekeeping_is_one_format hhit
  exact ⟨hhit, hone, data, hraw, hiff.mp hone⟩

/-- A label that stands behind a format with a delete command and another command is taken out. -/
theorem label_is_taken_out :
    let housekeeper := "^XA^IDR:A.GRF^FS^JUS^XZ".toList
    let label := "^XA^FO10,10^XGR:B.GRF,1,1^FS^XZ".toList
    let document := housekeeper ++ label
    .hit () document ∈ pieces housekeeping document ∧ stripHousekeeping document = [] ∧
      occurrences formatStart document = 2 ∧ occurrences formatEnd document = 2 ∧
      fieldOrigin <:+: document ∧ ¬ IsSessionFormat document := by
  intro housekeeper label document
  have hwhole : housekeeping document = some ((), document.length) := by decide +kernel
  have hpieces := pieces_of_whole hwhole (by decide +kernel)
  have hstarts : occurrences formatStart document = 2 := by decide +kernel
  refine ⟨?_, ?_, hstarts, by decide +kernel, by decide +kernel, fun hone => ?_⟩
  · rw [hpieces]
    exact List.mem_singleton_self _
  · rw [stripHousekeeping, replace, hpieces]
    rfl
  · exact absurd (hstarts.symm.trans hone.1) (by decide)

end LabelTemplate.Cleaning
