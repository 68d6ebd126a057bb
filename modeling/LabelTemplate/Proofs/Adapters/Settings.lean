import LabelTemplate.Adapters.Settings
import LabelTemplate.Proofs.Settings.Documented

/-!
# The toolkit does what is documented

Sections are checked key by key, and each check converts one value or takes one default. Variables
that name settings set single keys, none of them deeper than that and none for a whole section, so
what the environment says of a section are just the variables of its settings.
-/

namespace LabelTemplate

open Settings

variable {k : Section} {α : Type}

/-- What was accepted. -/
def Checked.accepted? : Checked α → Option α
  | .accepted a => some a
  | .rejected _ => none

theorem Checked.accepted?_eq_some_iff {x : Checked α} {a : α} :
    x.accepted? = some a ↔ x = .accepted a := by
  cases x with
  | accepted b => simp [accepted?]
  | rejected faults => exact ⟨(nomatch ·), (nomatch ·)⟩

namespace Adapters

/-- The types that values can be read as. -/
def conversions : Conversions where
  integer v := v.asInteger.accepted?
  number v := v.asNumber.accepted?
  truth v := v.asBool.accepted?
  text v := v.asText.accepted?

variable {entries : List (Text × Value)} {environment : List (Text × Text)}
  {given : (k : Section) → Option k.Content} {settings : Settings}

/-! ## Sections -/

theorem optional_eq_accepted_iff (setting : Setting k α) {read : Value → Checked α} {a : α}
    (hread : ∀ v, conversions.convert setting v = (read v).accepted?) :
    Checked.optional read setting.key (({} : Settings).get setting) entries = .accepted a ↔
      conversions.Takes setting (Value.lookup? setting.key.toList entries) a := by
  unfold Checked.optional
  cases Value.lookup? setting.key.toList entries with
  | none => exact ⟨fun h => (Checked.accepted.inj h).symm, fun h => congrArg _ (Eq.symm h)⟩
  | some v =>
      rw [Checked.within_eq_accepted_iff, Conversions.Takes, hread, Checked.accepted?_eq_some_iff]

theorem label_eq_accepted_iff {label : Label} : Label.ofEntries {} entries = .accepted label ↔
    ∀ ⦃α : Type⦄ (setting : Setting .label α),
      conversions.Takes setting (Value.lookup? setting.key.toList entries) (setting.of label) := by
  unfold Label.ofEntries
  simp only [Checked.seq_eq_accepted_iff, Checked.map_eq_accepted_iff]
  constructor
  · rintro ⟨_, _, ⟨_, _, ⟨_, hdpmm, rfl⟩, hwidth, rfl⟩, hheight, rfl⟩ α setting
    cases setting with
    | dpmm => exact (optional_eq_accepted_iff .dpmm fun _ => rfl).mp hdpmm
    | width => exact (optional_eq_accepted_iff .width fun _ => rfl).mp hwidth
    | height => exact (optional_eq_accepted_iff .height fun _ => rfl).mp hheight
  · intro h
    have hdpmm := (optional_eq_accepted_iff .dpmm fun _ => rfl).mpr (h .dpmm)
    have hwidth := (optional_eq_accepted_iff .width fun _ => rfl).mpr (h .width)
    have hheight := (optional_eq_accepted_iff .height fun _ => rfl).mpr (h .height)
    exact ⟨_, _, ⟨_, _, ⟨_, hdpmm, rfl⟩, hwidth, rfl⟩, hheight, rfl⟩

theorem render_eq_accepted_iff {render : RenderSettings} :
    RenderSettings.ofEntries entries = .accepted render ↔
      ∀ ⦃α : Type⦄ (setting : Setting .render α),
        conversions.Takes setting (Value.lookup? setting.key.toList entries)
          (setting.of render) := by
  unfold RenderSettings.ofEntries
  simp only [Checked.seq_eq_accepted_iff, Checked.map_eq_accepted_iff]
  constructor
  · rintro ⟨_, _, ⟨_, _, ⟨_, hbase, rfl⟩, htimeout, rfl⟩, haccept, rfl⟩ α setting
    cases setting with
    | baseUrl => exact (optional_eq_accepted_iff .baseUrl fun _ => rfl).mp hbase
    | timeoutSec => exact (optional_eq_accepted_iff .timeoutSec fun _ => rfl).mp htimeout
    | accept => exact (optional_eq_accepted_iff .accept fun _ => rfl).mp haccept
  · intro h
    have hbase := (optional_eq_accepted_iff .baseUrl fun _ => rfl).mpr (h .baseUrl)
    have htimeout := (optional_eq_accepted_iff .timeoutSec fun _ => rfl).mpr (h .timeoutSec)
    have haccept := (optional_eq_accepted_iff .accept fun _ => rfl).mpr (h .accept)
    exact ⟨_, _, ⟨_, _, ⟨_, hbase, rfl⟩, htimeout, rfl⟩, haccept, rfl⟩

theorem naming_eq_accepted_iff {naming : ExportSettings} :
    ExportSettings.ofEntries entries = .accepted naming ↔
      ∀ ⦃α : Type⦄ (setting : Setting .naming α),
        conversions.Takes setting (Value.lookup? setting.key.toList entries)
          (setting.of naming) := by
  unfold ExportSettings.ofEntries
  simp only [Checked.seq_eq_accepted_iff, Checked.map_eq_accepted_iff]
  constructor
  · rintro ⟨_, _, ⟨_, hextension, rfl⟩, hstart, rfl⟩ α setting
    cases setting with
    | extension => exact (optional_eq_accepted_iff .extension fun _ => rfl).mp hextension
    | compiledStart => exact (optional_eq_accepted_iff .compiledStart fun _ => rfl).mp hstart
  · intro h
    have hextension := (optional_eq_accepted_iff .extension fun _ => rfl).mpr (h .extension)
    have hstart := (optional_eq_accepted_iff .compiledStart fun _ => rfl).mpr (h .compiledStart)
    exact ⟨_, _, ⟨_, hextension, rfl⟩, hstart, rfl⟩

/-- A section is accepted just if each of its settings can take what stands under its key. -/
theorem checkSection_eq_accepted_iff {content : k.Content} :
    checkSection k entries = .accepted content ↔ ∀ ⦃α : Type⦄ (setting : Setting k α),
      conversions.Takes setting (Value.lookup? setting.key.toList entries)
        (setting.of content) := by
  cases k with
  | label => exact label_eq_accepted_iff
  | render => exact render_eq_accepted_iff
  | naming => exact naming_eq_accepted_iff
  | preview =>
      refine (optional_eq_accepted_iff .debounceMs fun _ => rfl).trans ⟨?_, fun h => h .debounceMs⟩
      rintro h _ ⟨⟩
      exact h
  | encoding =>
      refine (optional_eq_accepted_iff .remap fun _ => rfl).trans ⟨?_, fun h => h .remap⟩
      rintro h _ ⟨⟩
      exact h
  | editing =>
      refine (optional_eq_accepted_iff .uppercaseCodes fun _ => rfl).trans
        ⟨?_, fun h => h .uppercaseCodes⟩
      rintro h _ ⟨⟩
      exact h
  | logging =>
      refine (optional_eq_accepted_iff .logLevel fun _ => rfl).trans ⟨?_, fun h => h .logLevel⟩
      rintro h _ ⟨⟩
      exact h

theorem build_eq_ok_iff {content : k.Content} :
    build k entries = .ok content ↔ checkSection k entries = .accepted content := by
  rw [build, mapError_eq_ok_iff, Checked.toExcept_eq_ok_iff]

/-! ## The environment -/

theorem splitName?_key (setting : Setting k α) : splitName? setting.key.toList = none := by
  cases setting <;> rfl

/-- What names settings says nothing of a part of a setting. -/
theorem deepened_eq (hnames : NamesSettings environment) {variable_ entry : Text × Text}
    (hmem : variable_ ∈ environment) (hentry : variableOf? k variable_ = some entry) :
    deepened entry = (entry.1, .text entry.2) := by
  obtain ⟨hname, _⟩ := variableOf?_eq_some_iff.mp hentry
  have hstart : variableStart <+: lowerName variable_.1 :=
    hname ▸ ((List.prefix_append variableStart _).trans (List.prefix_append _ entry.1))
  obtain ⟨k', α, setting, hsetting⟩ := hnames variable_ hmem hstart
  obtain rfl : k = k' :=
    eq_of_variableStart_isPrefix (hsetting ▸ hname ▸ List.prefix_append _ entry.1)
  have hkey : entry.1 = setting.key.toList := List.append_cancel_left (hname.trans hsetting)
  obtain ⟨key, v⟩ := entry
  obtain rfl : key = setting.key.toList := hkey
  rw [deepened, splitName?_key]

theorem keysOf_eq (hnames : NamesSettings environment) :
    keysOf environment k = exportedEntries environment k := by
  have hentries : (variablesOf environment k).map deepened = exportedEntries environment k := by
    refine List.map_congr_left fun entry hentry => ?_
    obtain ⟨variable_, hmem, hvariable⟩ := List.mem_filterMap.mp hentry
    exact deepened_eq hnames hmem hvariable
  have hsingle : ∀ entry ∈ exportedEntries environment k, entry.2.isMap = false := by
    intro entry hentry
    obtain ⟨_, _, rfl⟩ := List.mem_map.mp hentry
    rfl
  unfold keysOf
  dsimp only
  rw [hentries, List.filter_eq_nil_iff.mpr fun entry hentry => by simp [hsingle entry hentry],
    List.filter_eq_self.mpr fun entry hentry => by simp [hsingle entry hentry], List.nil_append]

theorem wholeOf?_eq_none (hnames : NamesSettings environment) : wholeOf? environment k = none := by
  unfold wholeOf?
  rw [Option.map_eq_none_iff, List.find?_eq_none]
  intro entry hentry hname
  rw [beq_iff_eq] at hname
  obtain ⟨k', α, setting, hsetting⟩ := hnames entry (List.mem_reverse.mp hentry)
    (hname ▸ List.prefix_append variableStart _)
  -- the name of the section would go on behind its own end
  simp only [hname, variableName, variableStart_eq, List.append_assoc,
    List.append_cancel_left_eq] at hsetting
  exact underscore_not_mem_name k (hsetting ▸ by simp)

theorem exported_eq (hnames : NamesSettings environment) :
    exported environment k = .ok (.map (exportedEntries environment k)) := by
  unfold exported
  rw [wholeOf?_eq_none hnames, keysOf_eq hnames]
  rfl

/-! ## Putting together -/

/-- Settings are put together just if each section is accepted from what there is for it. -/
theorem assemble_eq_ok_iff {given : (k : Section) → Option (Given k)} :
    assemble environment given [] = .ok settings ↔
      ∀ k, assembled environment (given k) = .ok (.accepted (settings.part k)) := by
  unfold assemble
  simp only [bind_eq_ok_iff, Checked.butFor_nil, mapError_eq_ok_iff, Checked.toExcept_eq_ok_iff,
    Checked.seq_eq_accepted_iff, Checked.map_eq_accepted_iff]
  constructor
  · rintro ⟨_, hlabel, _, hrender, _, hpreview, _, hencoding, _, hediting, _, hnaming, _, hlogging,
      _, _, ⟨_, _, ⟨_, _, ⟨_, _, ⟨_, _, ⟨_, _, ⟨_, rfl, rfl⟩, rfl, rfl⟩, rfl, rfl⟩, rfl, rfl⟩, rfl,
      rfl⟩, rfl, rfl⟩, rfl, rfl⟩ k
    cases k with
    | label => exact hlabel
    | render => exact hrender
    | preview => exact hpreview
    | encoding => exact hencoding
    | editing => exact hediting
    | naming => exact hnaming
    | logging => exact hlogging
  · intro h
    exact ⟨_, h .label, _, h .render, _, h .preview, _, h .encoding, _, h .editing, _, h .naming,
      _, h .logging, _, _, ⟨_, _, ⟨_, _, ⟨_, _, ⟨_, _, ⟨_, _, ⟨_, rfl, rfl⟩, rfl, rfl⟩, rfl, rfl⟩,
      rfl, rfl⟩, rfl, rfl⟩, rfl, rfl⟩, rfl, rfl⟩

theorem toolkit_assemble_eq_ok_iff : toolkit.assemble environment given = .ok settings ↔
    ∀ k, assembled environment ((given k).map .built) = .ok (.accepted (settings.part k)) := by
  show assemble environment (fun k => (given k).map .built) [] = _ ↔ _
  exact assemble_eq_ok_iff

theorem assembled_built {content content' : k.Content}
    (h : assembled environment (some (.built content)) = .ok (.accepted content')) :
    content' = content := by
  obtain ⟨_, _, h⟩ := map_eq_ok_iff.mp h
  exact (Checked.accepted.inj h).symm

theorem assembled_none_iff (hnames : NamesSettings environment) {content : k.Content} :
    assembled environment (none : Option (Given k)) = .ok (.accepted content) ↔
      build k (exportedEntries environment k) = .ok content := by
  rw [build_eq_ok_iff, assembled, exported_eq hnames]
  exact ⟨fun h => Checked.within_eq_accepted_iff.mp (Except.ok.inj h),
    fun h => congrArg _ (Checked.within_eq_accepted_iff.mpr h)⟩

/-- **The toolkit does what is documented.** -/
theorem documented_toolkit : toolkit.Documented conversions where
  builds := build_eq_ok_iff.trans checkSection_eq_accepted_iff
  given_counts {environment given settings k content} h hgiven := by
    have hk := toolkit_assemble_eq_ok_iff.mp h k
    rw [hgiven] at hk
    exact assembled_built hk
  environment_counts {environment given settings k} hnames h hgiven := by
    have hk := toolkit_assemble_eq_ok_iff.mp h k
    rw [hgiven] at hk
    exact (assembled_none_iff hnames).mp hk
  assembles {environment} given hnames h := by
    -- a section that is given is taken, and another one is built from its variables
    have hparts : ∀ k, ∃ content, assembled environment ((given k).map .built) =
        .ok (.accepted content) := by
      intro k
      cases hk : given k with
      | some content =>
          refine ⟨content, ?_⟩
          rw [assembled, exported_eq hnames]
          rfl
      | none =>
          obtain ⟨content, hbuilt⟩ := h k hk
          exact ⟨content, (assembled_none_iff hnames).mpr hbuilt⟩
    choose content hcontent using hparts
    refine ⟨ofParts content, toolkit_assemble_eq_ok_iff.mpr fun k => ?_⟩
    rw [part_ofParts]
    exact hcontent k

end Adapters

end LabelTemplate
