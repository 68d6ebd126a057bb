import LabelTemplate.Proofs.CommandLine.Runs

/-!
# What becomes of the template

An export that is not told where to write writes beside its template. The two are different files
unless they have the same name, and the name of the file written is the template's with another
extension: that of the settings. So a template keeps what it holds unless it has the extension of
the files that are exported, and then it is replaced by what was exported from it.
-/

namespace LabelTemplate.CommandLine

open Session Verdict

variable {around : Surroundings} {store store' : Store} {i : Invocation}

/-- Edits by number keep the name of the template and the settings. -/
theorem Edited.kept {s s' : Session} {edits : List NumberedEdit} (h : Edited s edits s')
    (hedits : ∀ edit ∈ edits, IsEdit edit.2) :
    s'.settings = s.settings ∧ s'.fileName = s.fileName := by
  induction h with
  | none => exact ⟨rfl, rfl⟩
  | @edit s s' number change edits f _ _ _ hchanges _ ih =>
      rw [List.forall_mem_cons] at hedits
      obtain ⟨hsettings, hname⟩ := ih hedits.2
      rw [hsettings, hname]
      have haddressed : (change f.id).addressed? = some f.id := (hedits.1 f.id).1
      generalize change f.id = st at hchanges haddressed
      generalize s.after st = after at hchanges
      cases hchanges with
      | load | rename => exact nomatch haddressed
      | _ => exact ⟨rfl, rfl⟩

end LabelTemplate.CommandLine
