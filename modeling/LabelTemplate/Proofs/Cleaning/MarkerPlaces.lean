import LabelTemplate.Proofs.Cleaning.Markers

/-!
# Where a hex marker is missing

A data command misses its marker if neither a marker nor a marker with an escape character stands
directly in front of it (`MissesMarker`). This is said by what stands before a place and what behind
it, without a search. Markers are put in at these places and at no others
(`ensureHexMarkers_eq_flatMap`).

A marker that stood in front of a data command is in one piece afterwards, as no data command begins
inside it: all that is looked back at is on this side of the last caret, or was found missing
(`seenAlike_caret`). So putting markers in again changes nothing, and no data command misses its
marker any more (`not_missesMarker_ensureHexMarkers`).
-/

namespace LabelTemplate.Cleaning

open Text Command

/-! ## Specification -/

/-- A hex marker ends here, with or without an escape character; a line feed is none. -/
def EndsInMarker (before : Text) : Prop :=
  hexMarker <:+ before ∨ ∃ c, c ≠ '\n' ∧ hexMarker ++ [c] <:+ before

/-- A data command stands here without a hex marker directly in front of it. -/
def MissesMarker (before behind : Text) : Prop :=
  Command.fieldData <+: behind ∧ ¬ EndsInMarker before

/-! ## Looking back -/

theorem endsWithMarker_eq_true_iff {seen : Text} : endsWithMarker seen = true ↔
    hexMarker.reverse <+: seen ∨ ∃ c, c ≠ '\n' ∧ c :: hexMarker.reverse <+: seen := by
  constructor
  · intro h
    unfold endsWithMarker at h
    split at h
    · rename_i rest
      exact .inl ⟨rest, rfl⟩
    · rename_i c rest _
      exact .inr ⟨_, by simpa using h, _, rfl⟩
    · exact absurd h (by simp)
  · rintro (⟨rest, rfl⟩ | ⟨c, hc, rest, rfl⟩)
    · rfl
    · unfold endsWithMarker
      split
      · rfl
      · rename_i heq
        obtain ⟨rfl, _⟩ := List.cons.inj heq
        simpa using hc
      · rename_i hno
        exact absurd rfl (hno c rest)

theorem endsWithMarker_reverse_iff {before : Text} :
    endsWithMarker before.reverse = true ↔ EndsInMarker before := by
  rw [endsWithMarker_eq_true_iff, EndsInMarker, List.reverse_prefix]
  refine or_congr_right (exists_congr fun c => and_congr_right fun _ => ?_)
  have hreverse : c :: hexMarker.reverse = (hexMarker ++ [c]).reverse := by simp
  rw [hreverse, List.reverse_prefix]

instance (before : Text) : Decidable (EndsInMarker before) :=
  decidable_of_iff (endsWithMarker before.reverse = true) endsWithMarker_reverse_iff

instance (before behind : Text) : Decidable (MissesMarker before behind) :=
  inferInstanceAs (Decidable (_ ∧ _))

/-! ## Where markers are put in -/

theorem ite_missesMarker (before behind : Text) :
    (if MissesMarker before behind then hexMarker else []) =
      if Command.fieldData <+: behind then missingMarker before.reverse else [] := by
  unfold missingMarker MissesMarker
  by_cases hdata : Command.fieldData <+: behind
  · by_cases hends : EndsInMarker before
    · simp [hdata, hends, endsWithMarker_reverse_iff.mpr hends]
    · have hno : ¬ endsWithMarker before.reverse = true :=
        fun h => hends (endsWithMarker_reverse_iff.mp h)
      simp [hdata, hends, hno]
  · simp [hdata]

theorem addMarkers_eq_flatMap (before t : Text) :
    addMarkers before.reverse t = t.zipIdx.flatMap fun (c, i) =>
      (if MissesMarker (before ++ t.take i) (t.drop i) then hexMarker else []) ++ [c] := by
  induction t generalizing before with
  | nil => rfl
  | cons c cs ih =>
      have hbehind := ih (before ++ [c])
      rw [List.reverse_append, List.reverse_singleton, List.singleton_append] at hbehind
      rw [addMarkers_eq, hbehind, List.zipIdx_cons', List.flatMap_cons, List.flatMap_map]
      simp [ite_missesMarker]

/-- **Markers are put in where they are missing, and nothing else is.** -/
theorem ensureHexMarkers_eq_flatMap (t : Text) :
    ensureHexMarkers t = t.zipIdx.flatMap fun (c, i) =>
      (if MissesMarker (t.take i) (t.drop i) then hexMarker else []) ++ [c] :=
  addMarkers_eq_flatMap [] t

/-! ## No marker is missing afterwards -/

/-- A marker that is seen behind the first text is seen behind the second, whatever comes next. -/
def SeenAlike (seen seen' : Text) : Prop :=
  ∀ w, endsWithMarker (w ++ seen) = true → endsWithMarker (w ++ seen') = true

theorem SeenAlike.cons {seen seen' : Text} (h : SeenAlike seen seen') (c : Char) :
    SeenAlike (c :: seen) (c :: seen') := by
  intro w hw
  have := h (w ++ [c])
  simp only [List.append_assoc, List.singleton_append] at this
  exact this hw

/-- A marker that is read backwards reaches no further than to the next caret. -/
theorem marker_prefix_append_caret {w seen : Text} (seen' : Text)
    (h : hexMarker.reverse <+: w ++ '^' :: seen) : hexMarker.reverse <+: w ++ '^' :: seen' := by
  have hsplit : ∀ z, w ++ '^' :: z = w ++ ['^'] ++ z := fun z => by simp
  rw [hsplit] at h ⊢
  rcases List.prefix_or_prefix_of_prefix h (List.prefix_append _ seen) with hin | hlong
  · exact hin.trans (List.prefix_append _ seen')
  · -- the caret is the last character of a marker
    rw [show hexMarker.reverse = ['H', 'F'] ++ ['^'] from rfl] at hlong ⊢
    rcases List.prefix_concat_iff.mp hlong with heq | hlong
    · rw [heq]
      exact List.prefix_append _ seen'
    · have hcaret : '^' ∈ ['H', 'F'] :=
        hlong.subset (List.mem_append_right w (List.mem_singleton_self '^'))
      exact absurd hcaret (by decide)

/-- Behind the caret of a data command that has no marker, only what comes next is looked at. -/
theorem seenAlike_caret {seen : Text} (h : endsWithMarker seen = false) (seen' : Text) :
    SeenAlike ('^' :: seen) ('^' :: seen') := by
  intro w hw
  rw [endsWithMarker_eq_true_iff] at hw ⊢
  rcases hw with hw | ⟨c, hc, hw⟩
  · exact .inl (marker_prefix_append_caret seen' hw)
  · cases w with
    | nil =>
        -- the caret would be the escape character of a marker in front of the command
        have hseen : endsWithMarker seen = true :=
          endsWithMarker_eq_true_iff.mpr (.inl (List.cons_prefix_cons.mp hw).2)
        rw [hseen] at h
        exact absurd h (by decide)
    | cons d w =>
        rw [List.cons_append, List.cons_prefix_cons] at hw
        exact .inr ⟨c, hc, List.cons_prefix_cons.mpr
          ⟨hw.1, marker_prefix_append_caret seen' hw.2⟩⟩

theorem endsWithMarker_hexMarker (seen : Text) :
    endsWithMarker (hexMarker.reverse ++ seen) = true := rfl

/-- Markers that were put in are found when the text is gone over again. -/
theorem addMarkers_addMarkers {seen seen' : Text} (halike : SeenAlike seen seen') (t : Text) :
    addMarkers seen' (addMarkers seen t) = addMarkers seen t := by
  induction t generalizing seen seen' with
  | nil => rfl
  | cons c cs ih =>
      -- a character that stays, with a marker in front of it if it begins a data command
      have hstays : ∀ seen'', SeenAlike (c :: seen) (c :: seen'') →
          (Command.fieldData <+: c :: cs → endsWithMarker seen'' = true) →
          addMarkers seen'' (c :: addMarkers (c :: seen) cs) =
            c :: addMarkers (c :: seen) cs := by
        intro seen'' halike' hmarker
        rw [addMarkers_eq, ih halike']
        split
        · rename_i hdata
          rw [Command.fieldData, List.cons_prefix_cons, prefix_addMarkers_iff (by decide),
            ← List.cons_prefix_cons, ← Command.fieldData] at hdata
          rw [missingMarker, if_pos (hmarker hdata), List.nil_append]
        · rfl
      rw [addMarkers_eq seen c cs, missingMarker]
      split
      · rename_i hdata
        obtain ⟨rfl, _⟩ := List.cons_prefix_cons.mp hdata
        cases hseen : endsWithMarker seen with
        | true =>
            rw [if_pos rfl, List.nil_append]
            exact hstays seen' (halike.cons _) fun _ => halike [] hseen
        | false =>
            have hno : ∀ z, ¬ Command.fieldData <+: hexMarker ++ z := fun z hpre =>
              absurd (List.prefix_of_prefix_length_le hpre (List.prefix_append hexMarker z)
                (Nat.le_refl 3)) (by decide)
            rw [if_neg (by decide), addMarkers_command isCommand_hexMarker (hno _),
              hstays _ (seenAlike_caret hseen _) fun _ => endsWithMarker_hexMarker seen']
      · rename_i hdata
        exact hstays seen' (halike.cons c) fun h => absurd h hdata

theorem ensureHexMarkers_ensureHexMarkers (t : Text) :
    ensureHexMarkers (ensureHexMarkers t) = ensureHexMarkers t :=
  addMarkers_addMarkers (fun _ h => h) t

theorem length_le_length_addMarkers (seen t : Text) : t.length ≤ (addMarkers seen t).length := by
  induction t generalizing seen with
  | nil => exact Nat.le_refl 0
  | cons c cs ih =>
      have := ih (c :: seen)
      rw [addMarkers_eq, List.length_append, List.length_cons, List.length_cons]
      omega

/-- Where a marker is missing, putting it in makes a text longer. -/
theorem length_lt_of_missesMarker {before behind : Text} (h : MissesMarker before behind) :
    (before ++ behind).length < (ensureHexMarkers (before ++ behind)).length := by
  obtain ⟨⟨z, rfl⟩, hends⟩ := h
  have hseen : ¬ endsWithMarker before.reverse = true :=
    fun hseen => hends (endsWithMarker_reverse_iff.mp hseen)
  rw [ensureHexMarkers, addMarkers_append (isCommand_fieldData.atCaret z), addMarkers_fieldData,
    List.append_nil, missingMarker, if_neg hseen]
  have hbefore := length_le_length_addMarkers [] before
  have hbehind := length_le_length_addMarkers (Command.fieldData.reverse ++ before.reverse) z
  simp only [List.length_append, hexMarker, List.length_cons, List.length_nil]
  omega

/-- **No data command misses its marker any more.** -/
theorem not_missesMarker_ensureHexMarkers {t before behind : Text}
    (h : ensureHexMarkers t = before ++ behind) : ¬ MissesMarker before behind := by
  intro hmisses
  have hlt := length_lt_of_missesMarker hmisses
  rw [← h, ensureHexMarkers_ensureHexMarkers] at hlt
  exact Nat.lt_irrefl _ hlt

end LabelTemplate.Cleaning
