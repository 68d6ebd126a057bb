import LabelTemplate.Normalization
import LabelTemplate.Proofs.Extraction.Eligible
import LabelTemplate.Proofs.Statement.Closed
import LabelTemplate.Proofs.Text.Lines
import Mathlib.Data.List.Perm.Basic

/-!
# Normal order keeps the fields

Lines with a graphic call are moved up over all lines between them and the marker line. If no
statement is open where a line is taken out, nor where it is put in, the scan falls apart at each
of these places, before and after. So each stretch has the statements it had, and they
come in another order.

Fields and warnings depend on the statements alone, and on their order only in how they are
numbered: even a text that a bar code keeps from being a field does not, since the positions that
are claimed are the same.
-/

namespace LabelTemplate

open Text Scan Command

/-! ## Fields are made of statements -/

/-- The statements of all kinds, in the order in which a template is searched for them. -/
def statements (document : Text) : List Statement :=
  FieldKind.searchOrder.flatMap fun kind => found (Statement.recognise kind) document

/-- What a field is about: its kind, its position and its value in the template. -/
def Field.outline (f : Field) : FieldKind × Position × Text := (f.kind, f.position, f.templateValue)

/-- What the field of a statement is about, if it gives one where some positions are claimed. -/
def Statement.outline? (claimed : List Position) (s : Statement) :
    Option (FieldKind × Position × Text) :=
  (s.position?.filter fun p => s.kind != .text || !claimed.contains p).map
    fun p => (s.kind, p, s.value)

/-- Is this about a statement of the kind whose coordinates cannot be read? -/
def Warning.isUnreadable (kind : FieldKind) : Warning → Bool
  | .unreadableCoordinates r => r.kind == kind
  | _ => false

theorem map_statement_allRecords (document : Text) :
    (allRecords document).map Record.statement = statements document := by
  rw [allRecords, statements, List.map_flatMap]
  simp only [map_statement_records]

theorem claimedPositions_eq (document : Text) :
    claimedPositions document =
      (found (Statement.recognise .barcode) document).filterMap Statement.position? := by
  rw [claimedPositions, ← map_statement_records, List.filterMap_map]
  rfl

theorem map_outline_fields (document : Text) :
    (Extraction.fields document).map Field.outline =
      (statements document).filterMap (Statement.outline? (claimedPositions document)) := by
  have hnumber : (Extraction.fields document).map Field.outline =
      (Extraction.placedRecords document).map fun (r, p) => (r.kind, p, r.value) := by
    rw [Extraction.fields, List.map_map]
    nth_rewrite 2 [← List.zipIdx_map_fst 0 (Extraction.placedRecords document)]
    rw [List.map_map]
    rfl
  rw [hnumber, placedRecords_eq, ← map_statement_allRecords, List.filterMap_map, eligibleRecords,
    List.filterMap_filter, List.map_filterMap]
  congr 1
  funext r
  change _ = Statement.outline? _ r.statement
  have hposition : r.statement.position? = r.position? := rfl
  rw [Statement.outline?, hposition]
  cases hp : r.position? with
  | none => simp
  | some p =>
      have hunclaimed : r.unclaimed (claimedPositions document) =
          (r.kind != .text || !(claimedPositions document).contains p) := by
        rw [Record.unclaimed, hp]
        cases r.kind <;> rfl
      rw [← unclaimed_eq_eligible hp, hunclaimed, Option.filter_some]
      change Option.map _ (if (r.kind != .text || _) = true then _ else _) =
        Option.map _ (if (r.kind != .text || _) = true then _ else _)
      split <;> rfl

theorem countP_isUnreadable_warnings (kind : FieldKind) (document : Text) :
    (Extraction.warnings document).countP (Warning.isUnreadable kind) =
      (statements document).countP fun s => s.kind == kind && s.position?.isNone := by
  rw [extraction_warnings_eq, List.countP_map, List.countP_filter, ← map_statement_allRecords,
    List.countP_map]
  rfl

/-- Documents with the same statements have the same fields and warnings, but for their order. -/
theorem perm_outlines_of_perm_found {t u : Text}
    (h : ∀ kind, (found (Statement.recognise kind) t).Perm (found (Statement.recognise kind) u)) :
    ((Extraction.fields t).map Field.outline).Perm ((Extraction.fields u).map Field.outline) ∧
      ∀ kind, (Extraction.warnings t).countP (Warning.isUnreadable kind) =
        (Extraction.warnings u).countP (Warning.isUnreadable kind) := by
  have hstatements : (statements t).Perm (statements u) :=
    List.Perm.flatMap_left _ fun kind _ => h kind
  have hclaimed : ∀ p, p ∈ claimedPositions t ↔ p ∈ claimedPositions u := by
    intro p
    rw [claimedPositions_eq, claimedPositions_eq]
    exact ((h .barcode).filterMap Statement.position?).mem_iff
  have houtline : Statement.outline? (claimedPositions t) =
      Statement.outline? (claimedPositions u) := by
    funext s
    have hcontains : (claimedPositions t).contains = (claimedPositions u).contains := by
      funext p
      rw [Bool.eq_iff_iff, List.contains_iff_mem, List.contains_iff_mem, hclaimed]
    rw [Statement.outline?, Statement.outline?, hcontains]
  refine ⟨?_, fun kind => ?_⟩
  · rw [map_outline_fields, map_outline_fields, houtline]
    exact hstatements.filterMap _
  · rw [countP_isUnreadable_warnings, countP_isUnreadable_warnings]
    exact hstatements.countP_eq _

/-! ## Moving lines up -/

theorem atLineEnd_followed (ls : List Text) : Statement.AtLineEnd (followed ls) :=
  eq_nil_or_of_followed ls

theorem not_open_followed {ls : List Text} (h : ∀ l ∈ ls, ¬ Statement.Open (followed [l])) :
    ¬ Statement.Open (followed ls) := by
  induction ls with
  | nil => exact Statement.not_open_nil
  | cons l ls ih =>
      rw [← List.singleton_append, followed_append]
      exact Statement.not_open_append (h l List.mem_cons_self)
        (ih fun m hm => h m (List.mem_cons_of_mem l hm)) (atLineEnd_followed ls)

theorem found_followed_append {kind : FieldKind} {ls : List Text}
    (h : ¬ Statement.Open (followed ls)) (ms : List Text) :
    found (Statement.recognise kind) (followed (ls ++ ms)) =
      found (Statement.recognise kind) (followed ls) ++
        found (Statement.recognise kind) (followed ms) := by
  rw [followed_append]
  exact Statement.found_append_of_not_open h (atLineEnd_followed ms)

/--
**Moving lines up past closed places keeps the statements.**

`pending` are the lines that are passed since the last one that was moved. The induction is
on the lines still to come; a line that is moved closes the pending ones off.
-/
theorem perm_found_followed {kind : FieldKind} (moved : Text → Bool) (later pending : List Text)
    (h : ∀ a l b, later = a ++ l :: b → moved l = true →
      ¬ Statement.Open (followed (pending ++ a)) ∧ ¬ Statement.Open (followed [l])) :
    (found (Statement.recognise kind) (followed (pending ++ later))).Perm
      (found (Statement.recognise kind) (followed (later.filter moved)) ++
        found (Statement.recognise kind)
          (followed (pending ++ later.filter fun l => !moved l))) := by
  induction later generalizing pending with
  | nil => exact List.Perm.refl _
  | cons l later ih =>
      cases hl : moved l with
      | false =>
          -- the line joins the pending ones
          have hjoined := ih (pending ++ [l]) fun a m b hsplit hm => by
            rw [List.append_assoc]
            exact h (l :: a) m b (by rw [hsplit]; rfl) hm
          rw [List.filter_cons_of_neg (by simp [hl]), List.filter_cons_of_pos (by simp [hl])]
          simpa using hjoined
      | true =>
          obtain ⟨hpending, hline⟩ := h [] l later rfl hl
          rw [List.append_nil] at hpending
          have hlater := ih [] fun a m b hsplit hm => by
            obtain ⟨ha, hm⟩ := h (l :: a) m b (by rw [hsplit]; rfl) hm
            rw [List.append_cons, followed_append] at ha
            exact ⟨fun hopen => ha (hopen.append_left _), hm⟩
          rw [List.nil_append, List.nil_append] at hlater
          have hcons : ∀ ms, found (Statement.recognise kind) (followed (l :: ms)) =
              found (Statement.recognise kind) (followed [l]) ++
                found (Statement.recognise kind) (followed ms) := found_followed_append hline
          rw [List.filter_cons_of_pos hl, List.filter_cons_of_neg (by simp [hl]),
            found_followed_append hpending, found_followed_append hpending,
            hcons later, hcons (later.filter moved)]
          refine ((hlater.append_left _).append_left _).trans ?_
          rw [← List.append_assoc (found _ (followed [l]))]
          exact List.perm_append_comm_assoc _ _ _

/-! ## The normal order of a document -/

/--
A document with a marker line, in which no statement is open where the normal order takes
lines out and puts them in.
-/
structure ClosedAround (raw : Text) (marker : Nat) : Prop where
  /-- The marker line is the first with the marker. -/
  first : (lines raw).findIdx? (fun l => gapMedia <:+: l) = some marker
  /-- No statement is open at its end. -/
  turning : ¬ Statement.OpenAt raw (lineEnd raw marker)
  /-- None is open at the start or the end of a later line with a graphic call. -/
  moved : ∀ k (_ : k < (lines raw).length), marker < k → graphicCall <:+: (lines raw)[k] →
    ¬ Statement.OpenAt raw (lineStart raw k) ∧ ¬ Statement.OpenAt raw (lineEnd raw k)

theorem normalize_eq {raw turning : Text} {before later : List Text}
    (h : lines raw = before ++ turning :: later)
    (hbefore : ∀ l ∈ before, contains gapMedia l = false)
    (hturning : contains gapMedia turning = true) :
    Normalization.normalize raw = unlines (before ++ [turning]) ++
      followed (later.filter (contains graphicCall) ++
        later.filter fun l => !contains graphicCall l) := by
  have hunmarked : ∀ l ∈ before, (!contains gapMedia l) = true := by
    intro l hl
    rw [hbefore l hl]
    rfl
  rw [← unlines_append (by simp), List.append_assoc, List.singleton_append,
    Normalization.normalize, Normalization.normalizeBy, h, Normalization.normalizeLines,
    List.dropWhile_append_of_pos hunmarked, List.takeWhile_append_of_pos hunmarked]
  simp [hturning]

/-- The lines around the marker line, and what is closed among those behind it. -/
theorem ClosedAround.exists_lines {raw : Text} {marker : Nat} (h : ClosedAround raw marker) :
    ∃ before turning later, lines raw = before ++ turning :: later ∧
      (∀ l ∈ before, contains gapMedia l = false) ∧ contains gapMedia turning = true ∧
      ¬ Statement.Open (unlines (before ++ [turning])) ∧
      ∀ a l b, later = a ++ l :: b → contains graphicCall l = true →
        ¬ Statement.Open (followed a) ∧ ¬ Statement.Open (followed [l]) := by
  obtain ⟨hlt, hmarker, hfirst⟩ := List.findIdx?_eq_some_iff_getElem.mp h.first
  obtain ⟨before, turning, later, hlines, rfl⟩ : ∃ before turning later,
      lines raw = before ++ turning :: later ∧ before.length = marker := by
    refine ⟨(lines raw).take marker, (lines raw)[marker], (lines raw).drop (marker + 1), ?_, ?_⟩
    · rw [← List.drop_eq_getElem_cons hlt, List.take_append_drop]
    · rw [List.length_take]
      omega
  refine ⟨before, turning, later, hlines, ?_, ?_, ?_, ?_⟩
  · intro l hl
    obtain ⟨i, hi, rfl⟩ := List.mem_iff_getElem.mp hl
    have hno : ¬ gapMedia <:+: before[i] := by
      simpa [hlines, List.getElem_append_left hi] using hfirst i hi
    rw [← contains_iff isCommand_gapMedia.ne_nil] at hno
    simpa using hno
  · rw [contains_iff isCommand_gapMedia.ne_nil]
    simpa [hlines] using hmarker
  · rw [← take_lineEnd hlines]
    exact h.turning
  · rintro a l b rfl hcall
    have hsplit : lines raw = (before ++ turning :: a) ++ l :: b := by simp [hlines]
    have hk : (before ++ turning :: a).length < (lines raw).length := by simp [hsplit]
    have hget : (lines raw)[(before ++ turning :: a).length] = l := by simp [hsplit]
    obtain ⟨hstart, hend⟩ := h.moved (before ++ turning :: a).length hk (by simp) (by
      rwa [hget, ← contains_iff isCommand_graphicCall.ne_nil])
    rw [Statement.OpenAt, take_lineStart hsplit (by simp), List.append_cons before turning a,
      unlines_append (by simp)] at hstart
    rw [Statement.OpenAt, take_lineEnd hsplit, unlines_append (by simp)] at hend
    exact ⟨fun hopen => hstart (hopen.append_left _).append_feed,
      fun hopen => hend (hopen.append_left _)⟩

/--
**Normal order keeps the fields of a document whose moved lines are closed.**

Kind, position and value of the fields are the same, each as often as before, and so is the number
of statements of each kind whose coordinates cannot be read.
-/
theorem fields_of_normalize {raw : Text} {marker : Nat} (h : ClosedAround raw marker) :
    ((Extraction.fields (Normalization.normalize raw)).map Field.outline).Perm
        ((Extraction.fields raw).map Field.outline) ∧
      ∀ kind, (Extraction.warnings (Normalization.normalize raw)).countP
          (Warning.isUnreadable kind) =
        (Extraction.warnings raw).countP (Warning.isUnreadable kind) := by
  obtain ⟨before, turning, later, hlines, hbefore, hturning, hclosed, hmoved⟩ := h.exists_lines
  refine perm_outlines_of_perm_found fun kind => ?_
  have hraw : raw = unlines (before ++ [turning]) ++ followed later := by
    rw [← unlines_append (by simp), List.append_assoc, List.singleton_append, ← hlines,
      unlines_lines]
  have hgroup : ¬ Statement.Open (followed (later.filter (contains graphicCall))) := by
    refine not_open_followed fun l hl => ?_
    obtain ⟨hl, hcall⟩ := List.mem_filter.mp hl
    obtain ⟨a, b, hsplit⟩ := List.append_of_mem hl
    exact (hmoved a l b hsplit hcall).2
  have hperm := @perm_found_followed kind (contains graphicCall) later [] hmoved
  rw [normalize_eq hlines hbefore hturning,
    Statement.found_append_of_not_open hclosed (atLineEnd_followed _),
    found_followed_append hgroup]
  rw [hraw, Statement.found_append_of_not_open hclosed (atLineEnd_followed _)]
  exact hperm.symm.append_left _

/-- A call is moved up over a text of two lines; one of the texts has unreadable coordinates. -/
theorem fields_of_normalize_of_two_lines :
    let raw := "^XA\n^MNY\n^FT1,2^FDa\nb^FS\n^FO3,4^XGL,1,1^FS\n^FTx,4^FDc^FS\n^XZ".toList
    ClosedAround raw 1 ∧ Normalization.normalize raw ≠ raw ∧
      ((Extraction.fields (Normalization.normalize raw)).map Field.outline).Perm
        ((Extraction.fields raw).map Field.outline) ∧
      (Extraction.warnings (Normalization.normalize raw)).countP (Warning.isUnreadable .text) =
        (Extraction.warnings raw).countP (Warning.isUnreadable .text) := by
  intro raw
  have hclosed : ClosedAround raw 1 := ⟨by decide, by decide, by decide⟩
  obtain ⟨hfields, hwarnings⟩ := fields_of_normalize hclosed
  exact ⟨hclosed, by decide, hfields, hwarnings .text⟩

end LabelTemplate
