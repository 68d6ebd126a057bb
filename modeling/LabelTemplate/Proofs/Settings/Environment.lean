import LabelTemplate.Proofs.Settings.Values
import LabelTemplate.Proofs.Text.Occurrence

/-!
# What the environment says

The variable of a setting is named by the section and the key, with two underscores between them.
Names are told apart by that: there is no underscore in the name of a section, and no pair of them
in a key. What the variables of a section say under a key is what the variable of the setting says.
-/

namespace LabelTemplate.Settings

open Text

variable {environment : List (Text × Text)} {variable_ : Text × Text} {k k' : Section}
  {key key' : String} {α : Type}

/-- The name of the variable of a setting, in lower case. -/
def variableName (k : Section) (key : String) : Text := k.variableStart ++ key.toList

/-- What the environment says of the setting under a key of a section. -/
def exported? (environment : List (Text × Text)) (k : Section) (key : String) : Option Value :=
  (environment.reverse.find? (lowerName ·.1 == variableName k key)).map fun entry => .text entry.2

/-- Each variable that may be meant for the settings is that of one. -/
def NamesSettings (environment : List (Text × Text)) : Prop :=
  ∀ entry ∈ environment, variableStart <+: lowerName entry.1 →
    ∃ (k : Section) (α : Type) (setting : Setting k α),
      lowerName entry.1 = variableName k setting.key

/-- What the variables of a section say, as untyped values. -/
def exportedEntries (environment : List (Text × Text)) (k : Section) : List (Text × Value) :=
  (variablesOf environment k).map fun entry => (entry.1, .text entry.2)

/-! ## Names of variables -/

theorem underscore_not_mem_name (k : Section) : '_' ∉ k.name.toList := by
  cases k <;> decide

theorem variableStart_eq (k : Section) :
    k.variableStart = variableStart ++ (k.name.toList ++ ['_', '_']) :=
  rfl

/-- A name with the beginning of one section has not that of another. -/
theorem eq_of_variableStart_isPrefix (h : k.variableStart <+: variableName k' key) : k = k' := by
  obtain ⟨rest, hrest⟩ := h
  simp only [variableName, variableStart_eq, List.append_assoc, List.append_cancel_left_eq]
    at hrest
  have hname : k.name.toList = k'.name.toList :=
    (append_cons_inj_of_not_mem (underscore_not_mem_name k) (underscore_not_mem_name k') hrest).1
  revert hname
  cases k <;> cases k' <;> decide

theorem variableOf?_eq_some_iff {entry : Text × Text} :
    variableOf? k variable_ = some entry ↔
      k.variableStart ++ entry.1 = lowerName variable_.1 ∧ variable_.2 = entry.2 := by
  rw [variableOf?, Option.ite_none_right_eq_some, List.isPrefixOf_iff_prefix]
  constructor
  · rintro ⟨⟨rest, hrest⟩, h⟩
    obtain rfl := Option.some.inj h
    rw [← hrest, List.drop_left]
    exact ⟨rfl, rfl⟩
  · rintro ⟨hname, hvalue⟩
    rw [← hname, List.drop_left]
    exact ⟨List.prefix_append _ _, congrArg some (Prod.ext rfl hvalue)⟩

/-! ## Looking up -/

theorem exported?_cons : exported? (variable_ :: environment) k key =
    (exported? environment k key).or
      (if lowerName variable_.1 == variableName k key then some (.text variable_.2) else none) :=
  map_find?_reverse_cons

/-- What is said under a key of a section is what the variable of that name says. -/
theorem lookup?_exportedEntries :
    Value.lookup? key.toList (exportedEntries environment k) = exported? environment k key := by
  unfold exportedEntries variablesOf
  induction environment with
  | nil => rfl
  | cons entry environment ih =>
      rw [exported?_cons, ← ih]
      cases hentry : variableOf? k entry with
      | none =>
          have hne : ¬ lowerName entry.1 = variableName k key := fun heq => by
            have hfound : variableOf? k entry = some (key.toList, entry.2) :=
              variableOf?_eq_some_iff.mpr ⟨heq.symm, rfl⟩
            exact nomatch hentry.symm.trans hfound
          rw [List.filterMap_cons_none hentry, if_neg (by simpa using hne), Option.or_none]
      | some found =>
          obtain ⟨hname, hvalue⟩ := variableOf?_eq_some_iff.mp hentry
          have hkey : lowerName entry.1 = variableName k key ↔ found.1 = key.toList := by
            rw [← hname, variableName, List.append_cancel_left_eq]
          rw [List.filterMap_cons_some hentry, List.map_cons, Value.lookup?_cons]
          simp only [beq_iff_eq, hkey, hvalue]

end LabelTemplate.Settings
