import LabelTemplate.Proofs.Settings.Documented

/-!
# What a settings file says

A settings file says something of a setting if the part under its key, in the group of its section,
is a value or a group with a default. The sections of a file are read just if it has the form of a
settings file and what it says of each setting has a type that the setting can have; they then
follow the file. They are all of the sections, so that the environment does not count.
-/

namespace LabelTemplate.Settings

namespace Node

variable {name : Text} {key : Value} {node : Node} {entry : Value × Node}
  {entries : List (Value × Node)}

/-- Is this a group? -/
def isGroup : Node → Bool
  | group _ => true
  | _ => false

/-- The parts of a group; nothing else has parts. -/
def parts : Node → List (Value × Node)
  | group entries => entries
  | _ => []

theorem parts_of_isVoid (h : node.isVoid) : node.parts = [] := by
  cases node with
  | group entries =>
      cases entries with
      | nil => rfl
      | cons entry entries => exact nomatch h
  | single v => rfl
  | sequence items => rfl

theorem isKey_iff : isKey name key ↔ key = .text name := by
  cases key <;> simp [isKey]

theorem sameKey_text : sameKey (.text name) key = isKey name key := by
  cases key <;> simp [sameKey, wholeKey?, isKey, Bool.beq_comm]

theorem lookup?_cons : lookup? name (entry :: entries) =
    (lookup? name entries).or (if isKey name entry.1 then some entry.2 else none) :=
  map_find?_reverse_cons

theorem isSome_lookup?_iff : (lookup? name entries).isSome ↔ entries.any (isKey name ·.1) := by
  simp [lookup?, List.find?_isSome]

end Node

open Node

variable {t : Toolkit} {c : Conversions} {environment : List (Text × Text)} {k : Section}
variable {α : Type} {document : Node} {options parts : List (Value × Node)} {bytes : List UInt8}
  {settings : Settings}

/-- An entry under a text. -/
def underText? : Value × Value → Option (Text × Value)
  | (.text name, v) => some (name, v)
  | _ => none

/-- The settings as written in a section, those under texts. -/
def underTexts (parts : List (Value × Node)) : List (Text × Value) :=
  (flattened parts).filterMap underText?

theorem underText?_eq_some_iff {entry : Value × Value} {e : Text × Value} :
    underText? entry = some e ↔ entry = (.text e.1, e.2) := by
  obtain ⟨key, v⟩ := entry
  cases key <;> simp [underText?, Prod.ext_iff]

/-- The last part under a key says what is written there; if that is nothing, no other part does. -/
theorem lookup?_underTexts {name : Text} :
    Value.lookup? name (underTexts parts) = (Node.lookup? name parts).bind Node.setting? := by
  unfold underTexts flattened
  induction parts with
  | nil => rfl
  | cons part parts ih =>
      obtain ⟨key, node⟩ := part
      rw [lasting, lookup?_cons]
      by_cases hkey : isKey name key
      · obtain rfl := isKey_iff.mp hkey
        have hagain : parts.any (sameKey (.text name) ·.1) = (Node.lookup? name parts).isSome := by
          simp only [sameKey_text]
          exact Bool.eq_iff_iff.mpr isSome_lookup?_iff.symm
        rw [hagain, if_pos hkey]
        -- a later part under the key takes the place of this one, even if it says nothing
        cases hlater : Node.lookup? name parts with
        | some later => rw [Option.isSome_some, if_pos rfl, ih, hlater, Option.some_or]
        | none =>
            rw [hlater] at ih
            cases hnode : node.setting? with
            | none => simp [hnode, ih]
            | some v => simp [hnode, ih, underText?, Value.lookup?_cons]
      · -- under another key, what the part says is not looked at
        rw [if_neg hkey, Option.or_none, ← ih]
        split
        · rfl
        · cases hnode : node.setting? with
          | none => simp [hnode]
          | some v =>
              cases hentry : underText? (key, v) with
              | none => simp [hnode, hentry]
              | some e =>
                  have hne : ¬ e.1 = name := fun h => hkey <| isKey_iff.mpr <|
                    h ▸ congrArg Prod.fst (underText?_eq_some_iff.mp hentry)
                  simp [hnode, hentry, Value.lookup?_cons, hne]

/-- A group without a default takes back the value in front of it. -/
example : Value.lookup? ['k'] (underTexts
    [(.text ['k'], .single (.int 12)), (.text ['k'], .group [])]) = none := by
  rfl

theorem mapM_named_eq_ok_iff {entries : List (Value × Value)} {texts : List (Text × Value)} :
    entries.mapM named = .ok texts ↔
      (∀ entry ∈ entries, ∃ name, entry.1 = .text name) ∧
        entries.filterMap underText? = texts := by
  induction entries generalizing texts with
  | nil =>
      rw [List.mapM_nil]
      exact ⟨fun h => ⟨by simp, Except.ok.inj h⟩, fun h => congrArg _ h.2⟩
  | cons entry entries ih =>
      obtain ⟨key, v⟩ := entry
      rw [List.mapM_cons, bind_eq_ok_iff]
      cases key with
      | text name =>
          constructor
          · rintro ⟨_, hentry, h⟩
            obtain rfl := Except.ok.inj hentry
            obtain ⟨rest, hrest, h⟩ := bind_eq_ok_iff.mp h
            obtain rfl := Except.ok.inj h
            obtain ⟨hkeys, rfl⟩ := ih.mp hrest
            exact ⟨List.forall_mem_cons.mpr ⟨⟨name, rfl⟩, hkeys⟩, rfl⟩
          · rintro ⟨hkeys, rfl⟩
            have hrest := ih.mpr ⟨(List.forall_mem_cons.mp hkeys).2, rfl⟩
            exact ⟨_, rfl, bind_eq_ok_iff.mpr ⟨_, hrest, rfl⟩⟩
      | _ => simp [named]

/-! ## The form of a settings file -/

/-- The part of a file that all sections are in. -/
def optionsNode (document : Node) : Node :=
  (Node.lookup? "runtime_options".toList document.parts).getD (.group [])

/-- The part of a file that a section is in. -/
def sectionNode (options : List (Value × Node)) (k : Section) : Node :=
  (Node.lookup? k.name.toList options).getD (.single .null)

/-- A section is absent or a group whose settings stand under texts. -/
structure SectionFormed (section_ : Node) : Prop where
  group : section_.isVoid ∨ section_.isGroup
  keys : ∀ entry ∈ flattened section_.parts, ∃ name, entry.1 = .text name

/-- A file holds nothing or groups within groups, and its settings stand under texts. -/
structure WellFormed (document : Node) : Prop where
  group : document.isVoid ∨ document.isGroup
  options : (optionsNode document).isGroup
  sections : ∀ k, SectionFormed (sectionNode (optionsNode document).parts k)

/-- What a file says of the setting under a key of a section. -/
def written? (document : Node) (k : Section) (key : String) : Option Value :=
  (Node.lookup? key.toList (sectionNode (optionsNode document).parts k).parts).bind Node.setting?

/-- The bytes are those of a text that is parsed as a document. -/
def Holds (t : Toolkit) (bytes : List UInt8) (document : Node) : Prop :=
  Utf8.badBytes? bytes = none ∧ t.load (Utf8.decode bytes).unifyNewlines = .ok document

theorem groupEntries_eq_ok_iff {isSection : Bool} {node : Node} :
    groupEntries isSection node = .ok parts ↔ node.isGroup ∧ node.parts = parts := by
  cases node with
  | group entries => exact ⟨fun h => ⟨rfl, Except.ok.inj h⟩, fun h => congrArg _ h.2⟩
  | single v => exact ⟨(nomatch ·), fun h => nomatch h.1⟩
  | sequence items => exact ⟨(nomatch ·), fun h => nomatch h.1⟩

theorem bind_groupEntries_eq_ok_iff {isSection : Bool} {node : Node} {a : α}
    {f : List (Value × Node) → Except SourceError α} :
    (if node.isVoid then pure [] >>= f else groupEntries isSection node >>= f) = .ok a ↔
      (node.isVoid ∨ node.isGroup) ∧ f node.parts = .ok a := by
  by_cases hvoid : node.isVoid
  · rw [if_pos hvoid, parts_of_isVoid hvoid]
    exact ⟨fun h => ⟨.inl hvoid, h⟩, fun h => h.2⟩
  · rw [if_neg hvoid, bind_eq_ok_iff, or_iff_right hvoid]
    simp only [groupEntries_eq_ok_iff]
    exact ⟨fun ⟨_, ⟨hgroup, hparts⟩, h⟩ => ⟨hgroup, hparts ▸ h⟩, fun h => ⟨_, ⟨h.1, rfl⟩, h.2⟩⟩

theorem readSection_eq_ok_iff {content : k.Content} :
    readSection t options k = .ok content ↔ SectionFormed (sectionNode options k) ∧
      t.build k (underTexts (sectionNode options k).parts) = .ok content := by
  unfold readSection
  simp only [bind_groupEntries_eq_ok_iff, bind_eq_ok_iff, mapM_named_eq_ok_iff,
    mapError_eq_ok_iff]
  constructor
  · rintro ⟨hgroup, _, ⟨hkeys, rfl⟩, hbuild⟩
    exact ⟨⟨hgroup, hkeys⟩, hbuild⟩
  · rintro ⟨⟨hgroup, hkeys⟩, hbuild⟩
    exact ⟨hgroup, _, ⟨hkeys, rfl⟩, hbuild⟩

/-- The sections of a file are read just if it has the form of one and each of them is read. -/
theorem sectionsOf_eq_ok_iff : sectionsOf t document = .ok settings ↔
    (document.isVoid ∨ document.isGroup) ∧ (optionsNode document).isGroup ∧
      ∀ k, readSection t (optionsNode document).parts k = .ok (settings.part k) := by
  unfold sectionsOf
  simp only [bind_groupEntries_eq_ok_iff, bind_eq_ok_iff, groupEntries_eq_ok_iff]
  constructor
  · rintro ⟨hdocument, _, ⟨hoptions, rfl⟩, label, hlabel, render, hrender, preview,
      hpreview, encoding, hencoding, editing, hediting, naming, hnaming, logging, hlogging, h⟩
    obtain rfl := Except.ok.inj h
    refine ⟨hdocument, hoptions, fun k => ?_⟩
    cases k with
    | label => exact hlabel
    | render => exact hrender
    | preview => exact hpreview
    | encoding => exact hencoding
    | editing => exact hediting
    | naming => exact hnaming
    | logging => exact hlogging
  · rintro ⟨hdocument, hoptions, hread⟩
    exact ⟨hdocument, _, ⟨hoptions, rfl⟩, _, hread .label, _, hread .render, _, hread .preview,
      _, hread .encoding, _, hread .editing, _, hread .naming, _, hread .logging, rfl⟩

/-- **The sections of a file are those that follow it, if it is well-formed.** -/
theorem sectionsOf_eq_ok_iff_follows (h : t.Documented c) : sectionsOf t document = .ok settings ↔
    WellFormed document ∧ settings.Follows c (written? document) := by
  have hfollows : (∀ k, t.build k (underTexts (sectionNode (optionsNode document).parts k).parts) =
      .ok (settings.part k)) ↔ settings.Follows c (written? document) := by
    rw [h.build_eq_ok_iff]
    simp only [lookup?_underTexts]
    rfl
  rw [sectionsOf_eq_ok_iff, ← hfollows]
  simp only [readSection_eq_ok_iff, forall_and]
  exact ⟨fun ⟨hdocument, hoptions, hformed, hbuilt⟩ => ⟨⟨hdocument, hoptions, hformed⟩, hbuilt⟩,
    fun ⟨⟨hdocument, hoptions, hformed⟩, hbuilt⟩ => ⟨hdocument, hoptions, hformed, hbuilt⟩⟩

/-- **The settings of a file are those that follow it, whatever the environment names.** -/
theorem ofFile_eq_ok_iff (h : t.Documented c) (hnames : NamesSettings environment) :
    ofFile t environment bytes = .ok settings ↔
      ∃ document, Holds t bytes document ∧ WellFormed document ∧
        settings.Follows c (written? document) := by
  simp only [Holds, ← sectionsOf_eq_ok_iff_follows h]
  unfold ofFile
  cases Utf8.badBytes? bytes with
  | some bad => exact ⟨(nomatch ·), fun ⟨_, ⟨hbytes, _⟩, _⟩ => nomatch hbytes⟩
  | none =>
      simp only [bind_eq_ok_iff, mapError_eq_ok_iff, true_and]
      constructor
      · rintro ⟨document, hload, sections, hsections, hassemble⟩
        rw [h.assemble_given hnames] at hassemble
        obtain rfl := Except.ok.inj hassemble
        exact ⟨document, hload, hsections⟩
      · rintro ⟨document, hload, hsections⟩
        exact ⟨document, hload, settings, hsections, h.assemble_given hnames⟩

end LabelTemplate.Settings
