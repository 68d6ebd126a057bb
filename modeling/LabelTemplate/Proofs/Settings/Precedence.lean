import LabelTemplate.Proofs.Adapters.Settings
import LabelTemplate.Proofs.Settings.File

/-!
# Which source counts

The environment is meant to override a settings file setting by setting. It does so only where
there is no file: the sections of a file are complete, those it does not name with their defaults,
and they are all given, so that nothing of the environment gets past them. The settings of a file
are therefore those that were meant only if each variable says what the file would come to without
it.
-/

namespace LabelTemplate.Settings

variable {t : Toolkit} {c : Conversions} {environment : List (Text × Text)} {document : Node}
  {settings : Settings}

/-- Each variable that may be meant for the settings is that of one, and has a value for it. -/
structure ValidEnvironment (c : Conversions) (environment : List (Text × Text)) : Prop where
  named : NamesSettings environment
  fits : Fits c (exported? environment)

/-- What is said of a setting if the environment overrides the file. -/
def overridden (environment : List (Text × Text)) (document : Node) (k : Section) (key : String) :
    Option Value :=
  (exported? environment k key).or (written? document k key)

/-- The values in the environment are those that the settings of the file have anyway. -/
def Repeats (c : Conversions) (environment : List (Text × Text)) (document : Node) : Prop :=
  ∀ ⦃k : Section⦄ ⦃α : Type⦄ (setting : Setting k α),
    ∀ v ∈ exported? environment k setting.key, ∀ a, c.convert setting v = some a →
      c.Takes setting (written? document k setting.key) a

/-- Settings of a file are overridden just if the environment repeats the file. -/
theorem follows_overridden_iff (henvironment : Fits c (exported? environment))
    (hfile : settings.Follows c (written? document)) :
    settings.Follows c (overridden environment document) ↔ Repeats c environment document := by
  constructor
  · intro h k α setting v hv a hconvert
    have htakes := h setting
    rw [overridden, Option.mem_def.mp hv, Option.some_or] at htakes
    -- both are what the variable comes to
    obtain rfl : a = settings.get setting := Option.some.inj (hconvert.symm.trans htakes)
    exact hfile setting
  · intro h k α setting
    cases hv : exported? environment k setting.key with
    | none =>
        rw [overridden, hv, Option.none_or]
        exact hfile setting
    | some v =>
        obtain ⟨a, hconvert⟩ := henvironment setting v hv
        rw [overridden, hv, Option.some_or, (hfile setting).unique (h setting v hv a hconvert)]
        exact hconvert

/--
Without a settings file, settings follow the environment. With one they follow the file, as they
would with no environment at all, and that is what they were meant to be just if the environment
repeats the file.
-/
theorem environment_counts_only_without_file (ht : t.Documented c)
    (henvironment : ValidEnvironment c environment) :
    (∃ settings, ofEnvironment t environment = .ok settings ∧
      settings.Follows c (exported? environment)) ∧
    ∀ (bytes : List UInt8) (document : Node), Holds t bytes document → WellFormed document →
      Fits c (written? document) →
      ∃ settings, ofFile t environment bytes = .ok settings ∧
        settings.Follows c (written? document) ∧
        (settings.Follows c (overridden environment document) ↔
          Repeats c environment document) := by
  constructor
  · obtain ⟨settings, hfollows⟩ := exists_follows_iff.mpr henvironment.fits
    exact ⟨settings, (ofEnvironment_eq_ok_iff ht henvironment.named).mpr hfollows, hfollows⟩
  · intro bytes document hholds hformed hfits
    obtain ⟨settings, hfollows⟩ := exists_follows_iff.mpr hfits
    exact ⟨settings,
      (ofFile_eq_ok_iff ht henvironment.named).mpr ⟨document, hholds, hformed, hfollows⟩,
      hfollows, follows_overridden_iff henvironment.fits hfollows⟩

/-- A variable for the extension of exported files. -/
def extensionVariable : List (Text × Text) :=
  [("ZPLEDITOR_EXPORT__EXTENSION".toList, ".x".toList)]

/-- A file that only sets the resolution. -/
def resolutionFile : List UInt8 := "runtime_options:\n  label:\n    dpmm: 6\n".toUTF8.toList

theorem validEnvironment_extension : ValidEnvironment Adapters.conversions extensionVariable where
  named := by
    intro entry hentry _
    rw [List.mem_singleton.mp hentry]
    exact ⟨.naming, Text, .extension, by decide⟩
  fits := by
    intro k α setting v hv
    cases setting with
    | extension => exact ⟨".x".toList, by rw [← Option.some.inj hv]; rfl⟩
    | _ => exact absurd (Option.isSome_of_mem hv) (by decide)

theorem ofFile_resolution :
    ofFile Adapters.toolkit [] resolutionFile = .ok { label := { dpmm := 6 } } := by
  with_unfolding_all rfl

theorem holds_resolution : ∃ document, Holds Adapters.toolkit resolutionFile document ∧
    WellFormed document ∧
    Follows Adapters.conversions { label := { dpmm := 6 } } (written? document) :=
  (ofFile_eq_ok_iff Adapters.documented_toolkit fun _ h => absurd h List.not_mem_nil).mp
    ofFile_resolution

theorem extension_counts_only_without_file :
    Adapters.toolkit.Documented Adapters.conversions ∧
    ValidEnvironment Adapters.conversions extensionVariable ∧
    (∃ settings, ofEnvironment Adapters.toolkit extensionVariable = .ok settings ∧
      settings.naming.extension = ".x".toList) ∧
    ∃ document, Holds Adapters.toolkit resolutionFile document ∧ WellFormed document ∧
      Fits Adapters.conversions (written? document) ∧
      ∃ settings, ofFile Adapters.toolkit extensionVariable resolutionFile = .ok settings ∧
        settings.Follows Adapters.conversions (written? document) := by
  obtain ⟨document, hholds, hformed, hfollows⟩ := holds_resolution
  have hfits := exists_follows_iff.mp ⟨_, hfollows⟩
  obtain ⟨⟨settings, hsettings, hextension⟩, hfile⟩ :=
    environment_counts_only_without_file Adapters.documented_toolkit validEnvironment_extension
  obtain ⟨settings', hsettings', hfollows', -⟩ := hfile _ document hholds hformed hfits
  exact ⟨Adapters.documented_toolkit, validEnvironment_extension,
    ⟨settings, hsettings, (Option.some.inj (hextension .extension)).symm⟩,
    document, hholds, hformed, hfits, settings', hsettings', hfollows'⟩

/-- A variable does not even count if the file does not name its section. -/
theorem variable_without_effect_beside_file :
    ¬ ∀ (t : Toolkit) (c : Conversions) (environment : List (Text × Text)) (bytes : List UInt8)
      (document : Node), t.Documented c → ValidEnvironment c environment →
      Holds t bytes document → WellFormed document → Fits c (written? document) →
      ∃ settings, ofFile t environment bytes = .ok settings ∧
        settings.Follows c (overridden environment document) := by
  intro h
  obtain ⟨document, hholds, hformed, hfollows⟩ := holds_resolution
  obtain ⟨settings, hfile, hoverridden⟩ := h Adapters.toolkit Adapters.conversions
    extensionVariable _ document Adapters.documented_toolkit validEnvironment_extension hholds
    hformed (exists_follows_iff.mp ⟨_, hfollows⟩)
  have hresolution := (ofFile_eq_ok_iff Adapters.documented_toolkit
    validEnvironment_extension.named).mpr ⟨document, hholds, hformed, hfollows⟩
  obtain rfl := Except.ok.inj (hfile.symm.trans hresolution)
  have hextension : Adapters.conversions.convert .extension (.text ".x".toList) =
      some ".zpl".toList := hoverridden .extension
  exact absurd (Option.some.inj hextension) (by decide)

end LabelTemplate.Settings
