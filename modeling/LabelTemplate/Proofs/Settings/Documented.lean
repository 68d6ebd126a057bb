import LabelTemplate.Proofs.Settings.Environment
import LabelTemplate.Proofs.Success
import LabelTemplate.Settings.Source

/-!
# What is known of the code that settings are made with

The parser, the builder of sections and the code that puts settings together are not part of the
program. All that is assumed of them is what their documentation promises (`Toolkit.Documented`):
how a section is built, and which of two sources of a section counts. It does not say what a
program gets that gives no section, or all of them; that is derived here.
-/

namespace LabelTemplate.Settings

/-- What the code that settings are made with is documented to do. -/
structure Toolkit.Documented (t : Toolkit) (c : Conversions) : Prop where
  /--
  A section is built just if each setting can take what stands under its key, and of nothing else;
  what stands under other keys is passed over.
  -/
  builds {k : Section} {entries : List (Text × Value)} {content : k.Content} :
    t.build k entries = .ok content ↔ ∀ ⦃α : Type⦄ (setting : Setting k α),
      c.Takes setting (Value.lookup? setting.key.toList entries) (setting.of content)
  /-- A section that is given is taken as it is. -/
  given_counts {environment : List (Text × Text)} {given : (k : Section) → Option k.Content}
    {settings : Settings} {k : Section} {content : k.Content} :
    t.assemble environment given = .ok settings → given k = some content →
      settings.part k = content
  /-- A section that is not given is built from its variables. -/
  environment_counts {environment : List (Text × Text)}
    {given : (k : Section) → Option k.Content} {settings : Settings} {k : Section} :
    NamesSettings environment → t.assemble environment given = .ok settings → given k = none →
      t.build k (exportedEntries environment k) = .ok (settings.part k)
  /-- Only a section that has to be built from its variables can keep settings from being made. -/
  assembles {environment : List (Text × Text)} (given : (k : Section) → Option k.Content) :
    NamesSettings environment →
      (∀ k, given k = none → ∃ content, t.build k (exportedEntries environment k) = .ok content) →
      ∃ settings, t.assemble environment given = .ok settings

variable {t : Toolkit} {c : Conversions} {environment : List (Text × Text)}
  {settings sections : Settings}

theorem eq_of_part (h : ∀ k, settings.part k = sections.part k) : settings = sections := by
  cases settings
  cases sections
  exact Settings.mk.injEq .. |>.mpr
    ⟨h .label, h .render, h .preview, h .encoding, h .editing, h .naming, h .logging⟩

/-- All sections are built just if the settings follow what is written in them. -/
theorem Toolkit.Documented.build_eq_ok_iff (h : t.Documented c)
    {entries : Section → List (Text × Value)} :
    (∀ k, t.build k (entries k) = .ok (settings.part k)) ↔
      settings.Follows c fun k key => Value.lookup? key.toList (entries k) := by
  simp only [h.builds]
  rfl

/-- **Given all sections, the environment does not count.** -/
theorem Toolkit.Documented.assemble_given (h : t.Documented c)
    (hnames : NamesSettings environment) :
    t.assemble environment (fun k => some (sections.part k)) = .ok sections := by
  obtain ⟨settings, hsettings⟩ := h.assembles (fun k => some (sections.part k)) hnames
    fun _ hgiven => nomatch hgiven
  rw [hsettings, eq_of_part fun k => h.given_counts hsettings rfl]

/-- **Given no section, settings follow the environment.** -/
theorem ofEnvironment_eq_ok_iff (h : t.Documented c) (hnames : NamesSettings environment) :
    ofEnvironment t environment = .ok settings ↔ settings.Follows c (exported? environment) := by
  have hfollows : (∀ k, t.build k (exportedEntries environment k) = .ok (settings.part k)) ↔
      settings.Follows c (exported? environment) := by
    rw [h.build_eq_ok_iff]
    simp only [lookup?_exportedEntries]
  rw [← hfollows, ofEnvironment, mapError_eq_ok_iff]
  constructor
  · exact fun hsettings k => h.environment_counts hnames hsettings rfl
  · intro hbuilt
    obtain ⟨settings', hsettings⟩ :=
      h.assembles (fun _ => none) hnames fun k _ => ⟨_, hbuilt k⟩
    obtain rfl : settings' = settings := eq_of_part fun k =>
      Except.ok.inj ((h.environment_counts hnames hsettings rfl).symm.trans (hbuilt k))
    exact hsettings

end LabelTemplate.Settings
