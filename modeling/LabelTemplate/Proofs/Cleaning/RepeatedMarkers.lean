import LabelTemplate.Proofs.Cleaning.MarkerPlaces
import LabelTemplate.Proofs.Statement.Revision

/-!
# Statements with two markers

A statement has a hex marker if one stands anywhere between its coordinates and its data. A missing
marker is put in if none stands right in front of the data. So a statement whose marker is followed
by anything but one escape character gets a second one (`ensureHexMarkers_at_record`), which has not
chosen the escape character that the data is written with.

To say what happens to a statement in a document, the text can be cut at both its ends: nothing that
is looked back at from behind the end of a statement stands in it, and a marker found from its data
command stands in its middle.
-/

namespace LabelTemplate.Cleaning

open Text Command Scan Statement

/-! ## Specification -/

/-- The statement with a hex marker right in front of its data. -/
def markedAtData (s : Statement) : Statement :=
  { s with middle := s.middle ++ if EndsInMarker s.middle then [] else hexMarker }

/-! ## What is looked back at -/

/-- Only what decides about later markers has to be remembered. -/
theorem addMarkers_congr {seen seen' : Text}
    (h : ∀ w, endsWithMarker (w ++ seen) = endsWithMarker (w ++ seen')) (t : Text) :
    addMarkers seen t = addMarkers seen' t := by
  induction t generalizing seen seen' with
  | nil => rfl
  | cons c cs ih =>
      have hbehind : ∀ w, endsWithMarker (w ++ c :: seen) = endsWithMarker (w ++ c :: seen') := by
        intro w
        have := h (w ++ [c])
        simp only [List.append_assoc, List.singleton_append] at this
        exact this
      have hhere : endsWithMarker seen = endsWithMarker seen' := h []
      rw [addMarkers_eq, addMarkers_eq, ih hbehind, missingMarker, missingMarker, hhere]

/-- No marker reaches over the end of a statement. -/
theorem endsWithMarker_append_fieldEnd (w seen : Text) :
    endsWithMarker (w ++ (fieldEnd.reverse ++ seen)) = endsWithMarker w := by
  have hS : ∀ c ∈ (fieldEnd.reverse ++ seen).head?, c ∉ hexMarker.reverse := by
    simp [fieldEnd, hexMarker]
  have hmarker : hexMarker.reverse <+: w ++ (fieldEnd.reverse ++ seen) ↔
      hexMarker.reverse <+: w := by
    cases w with
    | nil => simp [hexMarker, fieldEnd]
    | cons d w =>
        refine prefix_append_iff_of_head (by simp) fun c hc hmem => ?_
        exact hS c hc (List.mem_of_mem_tail hmem)
  have hescape : ∀ e, e :: hexMarker.reverse <+: w ++ (fieldEnd.reverse ++ seen) ↔
      e :: hexMarker.reverse <+: w := by
    intro e
    cases w with
    | nil => simp [hexMarker, fieldEnd]
    | cons d w => exact prefix_append_iff_of_head (by simp) hS
  rw [Bool.eq_iff_iff, endsWithMarker_eq_true_iff, endsWithMarker_eq_true_iff, hmarker]
  simp only [hescape]

theorem addMarkers_behind_fieldEnd (seen t : Text) :
    addMarkers (fieldEnd.reverse ++ seen) t = ensureHexMarkers t :=
  addMarkers_congr (fun w => by rw [endsWithMarker_append_fieldEnd, List.append_nil]) t

/-- A marker in front of the data of a statement stands in its middle. -/
theorem endsInMarker_append_front_iff {s : Statement} (hs : s.Valid) (before : Text) :
    EndsInMarker (before ++ (s.front ++ s.middle)) ↔ EndsInMarker s.middle := by
  have hcut : ∀ a : Text, a.length ≤ 1 →
      (hexMarker ++ a <:+ before ++ (s.front ++ s.middle) ↔ hexMarker ++ a <:+ s.middle) := by
    intro a ha
    constructor
    · intro h
      have hlength : (hexMarker ++ a).length ≤ (s.front ++ s.middle).length := by
        have hopener := (headed_opener s.kind).three
        simp only [front, coordinates, hexMarker, List.length_append, List.length_cons,
          List.length_nil]
        omega
      have hin := List.suffix_of_suffix_length_le h (List.suffix_append before _) hlength
      have hfirst : ¬ hexMarker <+: s.front ++ s.middle := fun hpre =>
        opener_not_mem s.kind (by simp [← hs.headed_front.eq_of_prefix rfl hpre])
      obtain ⟨name, hfront, hname⟩ := hs.isCommand_front
      rw [hfront, List.cons_append] at hin hfirst
      rcases List.suffix_cons_iff.mp hin with heq | hin
      · exact absurd ⟨a, heq⟩ hfirst
      · rwa [suffix_append_iff_of_not_mem (by simp [hexMarker]) (by simpa [hexMarker])] at hin
    · exact fun h => h.trans ((List.suffix_append _ _).trans (List.suffix_append _ _))
  have hplain := hcut [] (by simp)
  rw [List.append_nil] at hplain
  rw [EndsInMarker, EndsInMarker, hplain]
  simp only [hcut [_] (Nat.le_refl 1)]

/-! ## Statements in a document -/

/-- A statement with no data command in its value gets at most one marker, in front of its data. -/
theorem marked_eq_markedAtData {s : Statement} (hs : s.Valid)
    (hvalue : ¬ Command.fieldData <:+: s.value) (before : Text) :
    marked before.reverse s = markedAtData s := by
  have hreverse : (s.front ++ s.middle).reverse ++ before.reverse =
      (before ++ (s.front ++ s.middle)).reverse := by simp
  have hmissing : missingMarker ((s.front ++ s.middle).reverse ++ before.reverse) =
      if EndsInMarker s.middle then [] else hexMarker := by
    rw [missingMarker, hreverse]
    simp only [endsWithMarker_reverse_iff, endsInMarker_append_front_iff hs]
  rw [marked, hmissing, addMarkers_eq_self hvalue, markedAtData]

theorem text_markedAtData_iff (s : Statement) :
    (markedAtData s).text = s.text ↔ EndsInMarker s.middle := by
  constructor
  · intro h
    by_contra hends
    have hlength := congrArg List.length h
    simp only [markedAtData, if_neg hends, text, coordinates, hexMarker, List.length_append,
      List.length_cons] at hlength
    omega
  · intro hends
    simp [markedAtData, hends]

/--
**A text statement stays as it is just if its middle ends in a marker.**

Otherwise a marker is put in right in front of its data, also if there is one further ahead in the
middle. What stands before the statement and behind it gets its own markers.
-/
theorem ensureHexMarkers_at_record {document : Text} {r : Record} (h : r ∈ records .text document)
    (hvalue : ¬ Command.fieldData <:+: r.value) :
    ensureHexMarkers document = ensureHexMarkers (document.take r.start) ++
        ((markedAtData r.statement).text ++ ensureHexMarkers (document.drop r.stop)) ∧
      ((markedAtData r.statement).text = r.statement.text ↔ EndsInMarker r.statement.middle) ∧
      (EndsInMarker r.statement.middle → r.statement.hasHexMarker = true) := by
  obtain ⟨hkind, hs⟩ := kind_valid_of_mem_records h
  obtain ⟨before, after, hdocument, hstart⟩ := exists_eq_append_of_mem_records h
  have htext : r.statement.kind = .text := hkind
  have hkind : r.statement.kind ≠ .image := by rw [htext]; decide
  refine ⟨?_, text_markedAtData_iff r.statement, fun hends => ?_⟩
  · have htake : document.take r.start = before := by rw [hdocument, hstart, List.take_left]
    have hdrop : document.drop r.stop = after := by
      rw [hdocument, Record.stop, hstart, ← length_text, ← List.length_append, ← List.append_assoc,
        List.drop_left]
    have hcaret : AtCaret (r.statement.text ++ after) := by
      rw [text_eq_front, List.append_assoc]
      exact hs.isCommand_front.atCaret _
    obtain ⟨body, hbody⟩ : ∃ body, r.statement.text = body ++ fieldEnd :=
      ⟨_, by rw [text, closer_eq hkind]⟩
    rw [htake, hdrop, hdocument, ensureHexMarkers, addMarkers_append hcaret,
      addMarkers_text hs hkind, List.append_nil, marked_eq_markedAtData hs hvalue, hbody,
      List.reverse_append, List.append_assoc, addMarkers_behind_fieldEnd]
    rfl
  · rw [hasHexMarker_iff htext]
    rcases hends with hends | ⟨c, _, hends⟩
    · exact hends.isInfix
    · exact (List.prefix_append hexMarker [c]).isInfix.trans hends.isInfix

/-- A statement whose marker stands with its escape character in front of the data. -/
theorem ensureHexMarkers_at_record_of_escape_character :
    let document := "^XA^FT10,10^A0N,28,28^FH*^FDA*82B^FS^XZ".toList
    let s : Statement :=
      ⟨.text, "10".toList, "10".toList, "^A0N,28,28^FH*".toList, "A*82B".toList⟩
    ⟨0, 3, s⟩ ∈ records .text document ∧ ¬ Command.fieldData <:+: s.value ∧
      EndsInMarker s.middle ∧
      ensureHexMarkers document = ensureHexMarkers "^XA".toList ++
        (s.text ++ ensureHexMarkers "^XZ".toList) := by
  intro document s
  have hrecord : ⟨0, 3, s⟩ ∈ records .text document := by decide +kernel
  have hvalue : ¬ Command.fieldData <:+: s.value := by decide +kernel
  have hends : EndsInMarker s.middle := by decide +kernel
  obtain ⟨hdocument, hiff, _⟩ := ensureHexMarkers_at_record hrecord hvalue
  rw [hiff.mpr hends] at hdocument
  exact ⟨hrecord, hvalue, hends, hdocument⟩

/-- With a font between its marker and its data, a statement gets a second marker. -/
theorem second_marker_is_put_in :
    let document := "^XA^FT10,10^FH*^A0N,28,28^FDA*82B^FS^XZ".toList
    let s : Statement :=
      ⟨.text, "10".toList, "10".toList, "^FH*^A0N,28,28".toList, "A*82B".toList⟩
    ⟨0, 3, s⟩ ∈ records .text document ∧ s.hasHexMarker = true ∧ s.escape = '*' ∧
      ¬ Command.fieldData <:+: s.value ∧ ¬ s.text <:+: ensureHexMarkers document ∧
      ensureHexMarkers document = "^XA^FT10,10^FH*^A0N,28,28^FH^FDA*82B^FS^XZ".toList := by
  decide +kernel

end LabelTemplate.Cleaning
