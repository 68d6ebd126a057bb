import LabelTemplate.Settings.Basic
import LabelTemplate.Value.Basic
import Mathlib.Tactic.Choose

/-!
# Settings one by one

Settings are made a section at a time, but each of them is looked up by its section and its key,
is converted by itself and has a default of its own. A source of settings is therefore taken as
what it says under a section and a key, and settings follow it if each is what the source says of
it, or else the default.
-/

namespace LabelTemplate

/-- Of several entries that are meant the last counts: the first one only if no other is meant. -/
theorem map_find?_reverse_cons {β γ : Type} {p : β → Bool} {f : β → γ} {entry : β}
    {entries : List β} : ((entry :: entries).reverse.find? p).map f =
      ((entries.reverse.find? p).map f).or (if p entry then some (f entry) else none) := by
  rw [List.reverse_cons, List.find?_append, Option.map_or, List.find?_singleton]
  split <;> rfl

theorem Value.lookup?_cons {key : Text} {entry : Text × Value} {entries : List (Text × Value)} :
    Value.lookup? key (entry :: entries) =
      (Value.lookup? key entries).or (if entry.1 == key then some entry.2 else none) :=
  map_find?_reverse_cons

namespace Settings

/-- What values come to, by the type that is wanted; not every value has every type. -/
structure Conversions where
  integer : Value → Option Int
  number : Value → Option Binary64
  truth : Value → Option Bool
  text : Value → Option Text

variable {c : Conversions} {k : Section} {α : Type}

namespace Conversions

/-- What a value comes to as a setting. -/
def convert (c : Conversions) : Setting k α → Value → Option α
  | .dpmm | .debounceMs => c.integer
  | .width | .height | .timeoutSec => c.number
  | .remap | .uppercaseCodes => c.truth
  | .baseUrl | .accept | .extension | .compiledStart | .logLevel => c.text

/-- A setting is what is said of it, converted, or its default if nothing is said. -/
def Takes (c : Conversions) (setting : Setting k α) : Option Value → α → Prop
  | some v, a => c.convert setting v = some a
  | none, a => a = ({} : Settings).get setting

variable {setting : Setting k α} {said : Option Value} {a b : α}

theorem Takes.unique (ha : c.Takes setting said a) (hb : c.Takes setting said b) : a = b := by
  cases said with
  | none => exact Eq.trans ha (Eq.symm hb)
  | some v => exact Option.some.inj (Eq.trans (Eq.symm ha) hb)

theorem exists_takes_iff :
    (∃ a, c.Takes setting said a) ↔ ∀ v ∈ said, ∃ a, c.convert setting v = some a := by
  cases said with
  | none => exact ⟨fun _ _ hv => (nomatch hv), fun _ => ⟨_, rfl⟩⟩
  | some v => simp only [Takes, Option.mem_some_iff, forall_eq']

end Conversions

variable {settings : Settings} {said : Section → String → Option Value}

/-- Each setting is what is said under its section and its key, or else its default. -/
def Follows (c : Conversions) (settings : Settings) (said : Section → String → Option Value) :
    Prop :=
  ∀ ⦃k : Section⦄ ⦃α : Type⦄ (setting : Setting k α),
    c.Takes setting (said k setting.key) (settings.get setting)

/-- What is said of each setting has a type that it can have. -/
def Fits (c : Conversions) (said : Section → String → Option Value) : Prop :=
  ∀ ⦃k : Section⦄ ⦃α : Type⦄ (setting : Setting k α),
    ∀ v ∈ said k setting.key, ∃ a, c.convert setting v = some a

/-- Settings with a given value for each. -/
def ofEach (value : ∀ (k : Section) (α : Type), Setting k α → α) : Settings where
  label := ⟨value _ _ .dpmm, value _ _ .width, value _ _ .height⟩
  render := ⟨value _ _ .baseUrl, value _ _ .timeoutSec, value _ _ .accept⟩
  debounceMs := value _ _ .debounceMs
  remap := value _ _ .remap
  uppercaseCodes := value _ _ .uppercaseCodes
  naming := ⟨value _ _ .extension, value _ _ .compiledStart⟩
  logLevel := value _ _ .logLevel

theorem get_ofEach {value : ∀ (k : Section) (α : Type), Setting k α → α} (setting : Setting k α) :
    (ofEach value).get setting = value k α setting := by
  cases setting <;> rfl

/-- Some settings follow what is said just if all of it has the right types. -/
theorem exists_follows_iff : (∃ settings : Settings, settings.Follows c said) ↔ Fits c said := by
  constructor
  · rintro ⟨settings, h⟩ k α setting
    exact Conversions.exists_takes_iff.mp ⟨settings.get setting, h setting⟩
  · intro h
    choose value hvalue using fun (k : Section) (α : Type) (setting : Setting k α) =>
      Conversions.exists_takes_iff.mpr (h setting)
    refine ⟨ofEach value, fun k α setting => ?_⟩
    rw [get_ofEach]
    exact hvalue k α setting

end Settings

end LabelTemplate
