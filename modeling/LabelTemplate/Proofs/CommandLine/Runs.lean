import LabelTemplate.Adapters.Settings
import LabelTemplate.CommandLine.Run
import LabelTemplate.Proofs.CommandLine.NumberedEdits
import LabelTemplate.Proofs.CommandLine.Options
import LabelTemplate.Proofs.Files.Places
import LabelTemplate.Proofs.Text.Utf8

/-!
# What runs leave behind

A run writes at its very end or not at all. Once the file to write is open, only two things can go
wrong: writing breaks off, or the path of the file cannot be shown (`conclude_target`); in any
other failure there is nothing to take back. What an export or a compilation comes to depends on
what it finds (`Opens`, `Compiles`) and on what can be written and shown, so for each end there is
a condition that is sufficient and necessary (`export_ends`, `compile_ends`).
-/

namespace LabelTemplate.CommandLine

open Verdict

/-- What an export needs is there: the settings, and the template, which is loaded. -/
def Opens (around : Surroundings) (store : Store) (i : Invocation) (session : Session) : Prop :=
  ∃ settings raw, settingsOf around store.read i.settingsFile = .ok settings ∧
    readText store.read (Path.ofText i.template) = .ok raw ∧
    session = ({ settings := settings } : Session).load raw (Path.ofText i.template).name

/-- What a compilation comes to if what it needs is there: the settings, the files, the template. -/
def Compiles (around : Surroundings) (store : Store) (i : Invocation)
    (r : CompileRequest) (compiled : Except Compilation.CompileError Export) : Prop :=
  ∃ settings sources content,
    settingsOf around store.read i.settingsFile = .ok settings ∧
    List.Forall₂ (fun given source => readSource store.read given = .ok source) r.images sources ∧
    readText store.read (Path.ofText i.template) = .ok content ∧
    compiled = Compilation.compile settings.naming.compiledStart (Path.ofText i.template).name
      content sources r.comment

/--
The file that a run writes: the one that is asked for by a path that is not empty or, if there is
none, the one of the derived name in the folder of the template.
-/
inductive Target (template : Path) (name : Text) : Option Text → Path → Prop
  /-- The file that is asked for. -/
  | given {out : Text} (hout : out ≠ []) : Target template name (some out) (Path.ofText out)
  /-- The file beside the template. -/
  | beside (hname : Path.isFileName name = true) (htemplate : template.names ≠ []) :
    Target template name none { template with names := template.names.dropLast ++ [name] }

/-- A text can be written into the file at a path, and the path can be shown. -/
structure Surroundings.Allows (around : Surroundings) (path : Path) (content : Text) : Prop where
  opens : around.barred? path = none
  whole : around.breaksOff? path content = none
  shown : around.unshown? (path.text ++ ['\n']) = none

/-- A file is written to where it belongs and can be read there, and nothing else is written. -/
def Delivered (around : Surroundings) (store : Store) (template : Path) (out : Option Text)
    (file : Export) (store' : Store) : Prop :=
  ∃ path place, Target template file.fileName out path ∧ store.Writable path place ∧
    around.Allows path file.content ∧ store.Writes place (Utf8.encode file.content) store' ∧
    readText store'.read path = .ok file.content.unifyNewlines

/--
Of a file, what can be written of it is written to where it belongs, and nothing else is written;
but that is not all of it, or its path cannot be shown.
-/
def Spoiled (around : Surroundings) (store : Store) (template : Path) (out : Option Text)
    (file : Export) (store' : Store) : Prop :=
  ∃ path place, Target template file.fileName out path ∧ store.Writable path place ∧
    around.barred? path = none ∧ ¬ around.Allows path file.content ∧
    store.Writes place (around.written path file.content).1 store'

variable {around : Surroundings} {store store' : Store} {i : Invocation}
variable {template path : Path} {name : Text} {out : Option Text} {file : Export}

theorem Opens.unique {session session' : Session} (h : Opens around store i session)
    (h' : Opens around store i session') : session = session' := by
  obtain ⟨settings, raw, hsettings, hraw, rfl⟩ := h
  obtain ⟨settings', raw', hsettings', hraw', rfl⟩ := h'
  obtain rfl := Except.ok.inj (hsettings.symm.trans hsettings')
  obtain rfl := Except.ok.inj (hraw.symm.trans hraw')
  rfl

theorem Opens.fresh {session : Session} (h : Opens around store i session) :
    session.Fresh := by
  obtain ⟨settings, raw, _, _, rfl⟩ := h
  exact Session.fresh_load _ _ _

theorem target_eq_ok_iff (hout : out ≠ some []) :
    target out template name = .ok path ↔ Target template name out path := by
  cases out with
  | some out =>
      constructor
      · intro h
        obtain rfl := Except.ok.inj h
        exact .given fun hnil => hout (congrArg some hnil)
      · rintro ⟨⟩
        rfl
  | none =>
      rw [target]
      constructor
      · intro h
        split at h
        · rename_i beside hbeside
          obtain rfl := Except.ok.inj h
          obtain ⟨hname, htemplate, rfl⟩ := Path.beside?_eq_some_iff.mp hbeside
          exact .beside hname htemplate
        · exact nomatch h
      · rintro ⟨⟩
        rename_i hname htemplate
        rw [Path.beside?_eq_some_iff.mpr ⟨hname, htemplate, rfl⟩]

/-! ## Concluding -/

/-- What a run leaves behind whose request comes to this, or fails. -/
def conclude (around : Surroundings) (store : Store) : Except Failure Verdict → Outcome
  | .error cause => { ending := .failed cause, store := store }
  | .ok verdict => Outcome.ofVerdict around store verdict

theorem run_of_read {program : Text} {line : List Text}
    (h : Invocation.read line = .ok i) :
    run program around store line =
      conclude around store (ofInvocation around store.read i) := by
  rw [run, h]
  dsimp only
  cases ofInvocation around store.read i <;> rfl

/-- A run that shows a text ends well just if that can be shown. -/
theorem ending_ofShown (around : Surroundings) (store : Store) (t : Text) :
    let o := Outcome.ofShown around store t
    around.unshown? t = none ∧ o.ending = .exit 0 ∨
      around.unshown? t ≠ none ∧ ∃ cause, o.ending = .failed cause := by
  intro o
  show _ ∧ (Outcome.ofShown around store t).ending = _ ∨ _ ∧ ∃ cause,
    (Outcome.ofShown around store t).ending = _
  rw [Outcome.ofShown]
  cases around.unshown? t with
  | some cause => exact .inr ⟨nofun, _, rfl⟩
  | none => exact .inl ⟨rfl, rfl⟩

theorem store_ofShown (t : Text) : (Outcome.ofShown around store t).store = store := by
  rw [Outcome.ofShown]
  split <;> rfl

/-- A file is written where its path leads to, with what can be written of it. -/
theorem write_eq_ok_iff {content : Text} {broken? : Option ForeignError} :
    Outcome.write around store path content = .ok (store', broken?) ↔
      around.barred? path = none ∧ (around.written path content).2 = broken? ∧
        ∃ place, store.Writable path place ∧ store' = { store with
          files := Store.put place (around.written path content).1 store.files } := by
  rw [Outcome.write]
  cases around.barred? path with
  | some cause => exact ⟨(nomatch ·), (nomatch ·.1)⟩
  | none =>
      simp only [true_and, bind_eq_ok_iff, mapError_eq_ok_iff, Store.write_eq_ok_iff]
      constructor
      · rintro ⟨_, ⟨place, hplace, rfl⟩, h⟩
        obtain ⟨rfl, rfl⟩ := Prod.mk.inj (Except.ok.inj h)
        exact ⟨rfl, place, hplace, rfl⟩
      · rintro ⟨rfl, place, hplace, rfl⟩
        exact ⟨_, ⟨place, hplace, rfl⟩, rfl⟩

/-- Writing does not break off just if all of the text is written. -/
theorem written_snd_eq_none_iff {content : Text} :
    (around.written path content).2 = none ↔ around.breaksOff? path content = none := by
  rw [Surroundings.written]
  cases around.breaksOff? path content <;> simp

/--
**What writing comes to.** A file that can be opened is written, and the run ends well if that is
all of it and its path can be shown. A file that cannot be opened is not touched.
-/
theorem ofVerdict_writes (around : Surroundings) (store : Store) (path : Path) (content : Text) :
    let o := Outcome.ofVerdict around store (.writes path content)
    (around.barred? path = none ∧ ∃ place, store.Writable path place ∧
        store.Writes place (around.written path content).1 o.store ∧
        (around.Allows path content ∧ o.ending = .exit 0 ∨
          ¬ around.Allows path content ∧ ∃ cause, o.ending = .failed cause)) ∨
      (around.barred? path = none → ∀ place, ¬ store.Writable path place) ∧ o.store = store ∧
        ∃ cause, o.ending = .failed cause := by
  intro o
  have ho : o = Outcome.ofVerdict around store (.writes path content) := rfl
  rw [Outcome.ofVerdict] at ho
  -- the file cannot be opened, or writing breaks off, or all of it is written
  cases hwrite : Outcome.write around store path content with
  | error cause =>
      rw [hwrite] at ho
      refine .inr ⟨fun hopens place hplace => ?_, congrArg Outcome.store ho, cause,
        congrArg Outcome.ending ho⟩
      rw [write_eq_ok_iff.mpr ⟨hopens, rfl, place, hplace, rfl⟩] at hwrite
      exact nomatch hwrite
  | ok found =>
      obtain ⟨written, broken?⟩ := found
      obtain ⟨hopens, hbroken, place, hplace, hwritten⟩ := write_eq_ok_iff.mp hwrite
      have hwrites := store.writes_put place (around.written path content).1
      rw [← hwritten] at hwrites
      rw [hwrite] at ho
      refine .inl ⟨hopens, place, hplace, ?_⟩
      cases broken? with
      | some cause =>
          rw [ho]
          refine ⟨hwrites, .inr ⟨fun hallows => ?_, _, rfl⟩⟩
          rw [Surroundings.written, hallows.whole] at hbroken
          exact nomatch hbroken
      | none =>
          have hwhole := written_snd_eq_none_iff.mp hbroken
          dsimp only at ho
          rw [ho, store_ofShown]
          rcases ending_ofShown around written (path.text ++ ['\n']) with
            ⟨hshown, hending⟩ | ⟨hunshown, hfailed⟩
          · exact ⟨hwrites, .inl ⟨⟨hopens, hwhole, hshown⟩, hending⟩⟩
          · exact ⟨hwrites, .inr ⟨fun hallows => hunshown hallows.shown, hfailed⟩⟩

/-- **A file that belongs somewhere is written there, or the run fails.** -/
theorem conclude_target (hout : out ≠ some []) :
    let o := conclude around store do
      let path ← target out template file.fileName
      pure (.writes path file.content)
    o.ending = .exit 0 ∧ Delivered around store template out file o.store ∨
      (∃ cause, o.ending = .failed cause) ∧
        (∀ store', ¬ Delivered around store template out file store') ∧
        (o.store = store ∨ Spoiled around store template out file o.store) := by
  intro o
  cases htarget : target out template file.fileName with
  | error cause =>
      have ho : o = { ending := .failed cause, store := store } := by
        show conclude around store _ = _
        rw [htarget]
        rfl
      refine .inr ⟨⟨cause, congrArg Outcome.ending ho⟩, ?_, .inl (congrArg Outcome.store ho)⟩
      rintro store' ⟨path, place, hpath, _⟩
      rw [(target_eq_ok_iff hout).mpr hpath] at htarget
      exact nomatch htarget
  | ok path =>
      have hpath := (target_eq_ok_iff hout).mp htarget
      have ho : o = Outcome.ofVerdict around store (.writes path file.content) := by
        show conclude around store _ = _
        rw [htarget]
        rfl
      -- a file that is delivered anywhere is delivered here
      have hhere : ∀ store', Delivered around store template out file store' →
          around.Allows path file.content ∧ ∃ place, store.Writable path place := by
        rintro store' ⟨path', place, hpath', hplace, hallows, _⟩
        rw [← target_eq_ok_iff hout, htarget] at hpath'
        obtain rfl := Except.ok.inj hpath'
        exact ⟨hallows, place, hplace⟩
      rw [ho]
      rcases ofVerdict_writes around store path file.content with
        ⟨hopens, place, hplace, hwrites, ⟨hallows, hending⟩ | ⟨hallows, hfailed⟩⟩ |
          ⟨hclosed, hstore, hfailed⟩
      · rw [Surroundings.written, hallows.whole] at hwrites
        refine .inl ⟨hending, path, place, hpath, hplace, hallows, hwrites, ?_⟩
        rw [readText, hwrites.read_eq hplace]
        show Except.ok (Utf8.decode (Utf8.encode file.content)).unifyNewlines = _
        rw [Utf8.decode_encode]
      · exact .inr ⟨hfailed, fun store' h => hallows (hhere store' h).1,
          .inr ⟨path, place, hpath, hplace, hopens, hallows, hwrites⟩⟩
      · refine .inr ⟨hfailed, fun store' h => ?_, .inl hstore⟩
        obtain ⟨hallows, place, hplace⟩ := hhere store' h
        exact hclosed hallows.opens place hplace

/-! ## Exports -/

section

variable {r : ExportRequest}

/-- Without an opened session an export fails. -/
theorem ofInvocation_of_not_opens (hrequest : i.request = .exportFile r)
    (h : ∀ session, ¬ Opens around store i session) :
    ∃ cause, ofInvocation around store.read i = .error cause := by
  cases hsettings : settingsOf around store.read i.settingsFile with
  | error cause => exact ⟨cause, by rw [ofInvocation, hsettings]; rfl⟩
  | ok settings =>
      cases hraw : readText store.read (Path.ofText i.template) with
      | error cause =>
          refine ⟨cause, ?_⟩
          rw [ofInvocation, hsettings, hrequest]
          show ofExport _ _ _ _ = _
          rw [ofExport, open?, hraw]
          rfl
      | ok raw => exact absurd ⟨settings, raw, hsettings, hraw, rfl⟩ (h _)

theorem ofInvocation_of_opens {session : Session}
    (hrequest : i.request = .exportFile r) (h : Opens around store i session) :
    ofInvocation around store.read i =
      match stepsOf session (editsOf r) with
      | .error number => .ok (.refuses 2 (noSuchField number))
      | .ok steps =>
        let file := (session.afterAll steps).exportFile
        if file.ok then do
          let path ← target r.out (Path.ofText i.template) file.fileName
          pure (.writes path file.content)
        else .ok (.refuses 1 (file.message.getD noReason)) := by
  obtain ⟨settings, raw, hsettings, hraw, rfl⟩ := h
  rw [ofInvocation, hsettings, hrequest]
  show ofExport _ _ _ _ = _
  rw [ofExport, open?, hraw]
  rfl

/-- **How an export ends.** -/
theorem export_ends {program : Text} {line : List Text}
    (hread : Invocation.read line = .ok i) (hrequest : i.request = .exportFile r)
    (hout : r.out ≠ some []) :
    let o := run program around store line
    (o.ending = .exit 0 ↔ ∃ session, Opens around store i session ∧
      ∃ edited, Edited session (editsOf r) edited ∧ edited.exportFile.ok = true ∧
        Delivered around store (Path.ofText i.template) r.out edited.exportFile o.store) ∧
    (o.ending = .exit 1 ↔ ∃ session, Opens around store i session ∧
      ∃ edited, Edited session (editsOf r) edited ∧ edited.exportFile.ok = false) ∧
    (o.ending = .exit 2 ↔ ∃ session, Opens around store i session ∧
      ∃ edit ∈ editsOf r, ¬ HasNumber session edit.1) ∧
    (o.ending ≠ .exit 0 → o.store = store ∨ (∃ cause, o.ending = .failed cause) ∧
      ∃ session, Opens around store i session ∧
        ∃ edited, Edited session (editsOf r) edited ∧ edited.exportFile.ok = true ∧
          Spoiled around store (Path.ofText i.template) r.out edited.exportFile o.store) := by
  intro o
  have ho : o = conclude around store (ofInvocation around store.read i) := run_of_read hread
  by_cases hopens : ∃ session, Opens around store i session
  · obtain ⟨session, hopens⟩ := hopens
    have hsession : ∀ s, Opens around store i s ↔ s = session :=
      fun s => ⟨fun h => h.unique hopens, fun h => h ▸ hopens⟩
    have hedited : ∀ s, Edited session (editsOf r) s ↔
        ∃ steps, stepsOf session (editsOf r) = .ok steps ∧ session.afterAll steps = s :=
      fun s => edited_iff hopens.fresh fun _ h => isEdit_of_mem_editsOf h
    have hknown := @exists_stepsOf_iff session (editsOf r)
    simp only [hsession, exists_eq_left, hedited]
    rw [ofInvocation_of_opens hrequest hopens] at ho
    cases hsteps : stepsOf session (editsOf r) with
    | error number =>
        -- then no course of edits is possible, and neither of the other ends
        rw [hsteps] at ho hknown
        have hending : o.ending = .exit 2 := congrArg Outcome.ending ho
        have hstore : o.store = store := congrArg Outcome.store ho
        have hmissing : ∃ edit ∈ editsOf r, ¬ HasNumber session edit.1 := by
          by_contra h
          push Not at h
          exact nomatch (hknown.mpr h).choose_spec
        simp [hending, hstore, hmissing]
    | ok steps =>
        have hnone : ¬ ∃ edit ∈ editsOf r, ¬ HasNumber session edit.1 := by
          push Not
          exact hknown.mp ⟨steps, hsteps⟩
        simp only [Except.ok.injEq, exists_eq_left', hnone]
        rw [hsteps] at ho
        cases hok : (session.afterAll steps).exportFile.ok with
        | false =>
            simp only [hok] at ho
            have hending : o.ending = .exit 1 := by
              rw [ho]
              rfl
            have hstore : o.store = store := by
              rw [ho]
              rfl
            simp [hending, hstore]
        | true =>
            simp only [hok, if_true] at ho
            rcases conclude_target hout with
              ⟨hending, hdelivered⟩ | ⟨⟨cause, hfailed⟩, hundelivered, hstore⟩
            · rw [← ho] at hending hdelivered
              simp [hending, hdelivered]
            · rw [← ho] at hfailed hstore
              simpa [hfailed, hundelivered] using hstore
  · obtain ⟨cause, hfailed⟩ := ofInvocation_of_not_opens hrequest (not_exists.mp hopens)
    rw [hfailed] at ho
    have hending : o.ending = .failed cause := congrArg Outcome.ending ho
    have hstore : o.store = store := congrArg Outcome.store ho
    simp [hending, hstore, not_exists.mp hopens]

end

/-! ## Compilations -/

section

variable {r : CompileRequest}

theorem Compiles.unique {compiled compiled' : Except Compilation.CompileError Export}
    (h : Compiles around store i r compiled) (h' : Compiles around store i r compiled') :
    compiled = compiled' := by
  obtain ⟨settings, sources, content, hsettings, hsources, hcontent, rfl⟩ := h
  obtain ⟨settings', sources', content', hsettings', hsources', hcontent', rfl⟩ := h'
  rw [← mapM_eq_ok_iff] at hsources hsources'
  obtain rfl := Except.ok.inj (hsettings.symm.trans hsettings')
  obtain rfl := Except.ok.inj (hsources.symm.trans hsources')
  obtain rfl := Except.ok.inj (hcontent.symm.trans hcontent')
  rfl

/-- A compilation fails if anything is missing that it needs. -/
theorem ofInvocation_of_not_compiles (hrequest : i.request = .compile r)
    (h : ∀ compiled, ¬ Compiles around store i r compiled) :
    ∃ cause, ofInvocation around store.read i = .error cause := by
  cases hsettings : settingsOf around store.read i.settingsFile with
  | error cause => exact ⟨cause, by rw [ofInvocation, hsettings]; rfl⟩
  | ok settings =>
      have hcompile : ofInvocation around store.read i =
          ofCompile store.read settings (Path.ofText i.template) r := by
        rw [ofInvocation, hsettings, hrequest]
        rfl
      rw [hcompile, ofCompile]
      cases hsources : r.images.mapM (readSource store.read) with
      | error cause => exact ⟨cause, rfl⟩
      | ok sources =>
          cases hcontent : readText store.read (Path.ofText i.template) with
          | error cause => exact ⟨cause, rfl⟩
          | ok content =>
              have hsources := mapM_eq_ok_iff.mp hsources
              exact absurd ⟨settings, sources, content, hsettings, hsources, hcontent, rfl⟩ (h _)

theorem ofInvocation_of_compiles (hrequest : i.request = .compile r)
    (compiled : Except Compilation.CompileError Export) :
    Compiles around store i r compiled →
    ofInvocation around store.read i = match compiled with
      | .error e => .ok (.refuses 1 e.message.toList)
      | .ok file => (do
        let path ← target r.out (Path.ofText i.template) file.fileName
        pure (.writes path file.content)) := by
  rintro ⟨settings, sources, content, hsettings, hsources, hcontent, rfl⟩
  rw [← mapM_eq_ok_iff] at hsources
  rw [ofInvocation, hsettings, hrequest]
  show ofCompile _ _ _ _ = _
  rw [ofCompile, hsources, hcontent]
  rfl

/-- **How a compilation ends.** -/
theorem compile_ends {program : Text} {line : List Text}
    (hread : Invocation.read line = .ok i) (hrequest : i.request = .compile r)
    (hout : r.out ≠ some []) :
    let o := run program around store line
    (o.ending = .exit 0 ↔ ∃ file, Compiles around store i r (.ok file) ∧
      Delivered around store (Path.ofText i.template) r.out file o.store) ∧
    (o.ending = .exit 1 ↔ ∃ e, Compiles around store i r (.error e)) ∧
    (o.ending ≠ .exit 0 → o.store = store ∨ (∃ cause, o.ending = .failed cause) ∧
      ∃ file, Compiles around store i r (.ok file) ∧
        Spoiled around store (Path.ofText i.template) r.out file o.store) := by
  intro o
  have ho : o = conclude around store (ofInvocation around store.read i) := run_of_read hread
  by_cases hcompiles : ∃ compiled, Compiles around store i r compiled
  · obtain ⟨compiled, hcompiles⟩ := hcompiles
    have hcompiled : ∀ c, Compiles around store i r c ↔ c = compiled :=
      fun c => ⟨fun h => h.unique hcompiles, fun h => h ▸ hcompiles⟩
    simp only [hcompiled]
    rw [ofInvocation_of_compiles hrequest compiled hcompiles] at ho
    cases compiled with
    | error e =>
        have hending : o.ending = .exit 1 := congrArg Outcome.ending ho
        have hstore : o.store = store := congrArg Outcome.store ho
        simp [hending, hstore]
    | ok file =>
        simp only [Except.ok.injEq, exists_eq_left]
        rcases conclude_target hout with
          ⟨hending, hdelivered⟩ | ⟨⟨cause, hfailed⟩, hundelivered, hstore⟩
        · rw [← ho] at hending hdelivered
          simp [hending, hdelivered]
        · rw [← ho] at hfailed hstore
          simpa [hfailed, hundelivered] using hstore
  · obtain ⟨cause, hfailed⟩ := ofInvocation_of_not_compiles hrequest (not_exists.mp hcompiles)
    rw [hfailed] at ho
    have hending : o.ending = .failed cause := congrArg Outcome.ending ho
    have hstore : o.store = store := congrArg Outcome.store ho
    simp [hending, hstore, not_exists.mp hcompiles]

end

/-! ## All runs -/

theorem bind_unlessEmpty_ne (value : Option Text) : value.bind unlessEmpty ≠ some [] := by
  cases value with
  | none => exact fun h => nomatch h
  | some value =>
      rw [Option.bind_some, unlessEmpty]
      split
      · exact fun h => nomatch h
      · rename_i hvalue
        exact fun h => hvalue (by rw [Option.some.inj h]; rfl)

theorem ExportRequest.Says.out_ne_nil {options : List (Switch × Text)} {r : ExportRequest}
    (h : r.Says options) : r.out ≠ some [] :=
  h.out ▸ bind_unlessEmpty_ne _

theorem CompileRequest.Says.out_ne_nil {options : List (Switch × Text)} {r : CompileRequest}
    (h : r.Says options) : r.out ≠ some [] :=
  h.out ▸ bind_unlessEmpty_ne _

/-- A line that is not read leaves all files as they were. -/
theorem store_of_read_eq_error {program : Text} {line : List Text} {stop : Stop}
    (h : Invocation.read line = .error stop) : (run program around store line).store = store := by
  rw [run, h]
  dsimp only
  rw [Outcome.ofStop]
  split
  · exact store_ofShown _
  · rfl

theorem store_of_fields {program : Text} {line : List Text} {structured : Bool}
    (h : Invocation.read line = .ok i) (hrequest : i.request = .fields structured) :
    (run program around store line).store = store := by
  rw [run_of_read h, ofInvocation, hrequest]
  cases settingsOf around store.read i.settingsFile with
  | error cause => rfl
  | ok settings =>
      show (conclude around store (ofFields _ _ _ _ _)).store = store
      rw [ofFields]
      cases open? store.read settings (Path.ofText i.template) with
      | error cause => rfl
      | ok session => exact store_ofShown _

/-- **A run that ends with a code other than 0 leaves all files as they were.** -/
theorem store_of_exit {program : Text} {line : List Text} {code : Nat}
    (hcode : (run program around store line).ending = .exit code) (hne : code ≠ 0) :
    (run program around store line).store = store := by
  -- a run that fails may have begun to write, but it has no code
  have hzero : (run program around store line).ending ≠ .exit 0 := by
    rw [hcode]
    exact fun h => hne (Ending.exit.inj h)
  have hexit : ∀ cause, (run program around store line).ending ≠ .failed cause := by
    rw [hcode]
    exact nofun
  cases hread : Invocation.read line with
  | error stop => exact store_of_read_eq_error hread
  | ok i =>
      have hsays := says_of_read hread
      cases hrequest : i.request with
      | fields structured => exact store_of_fields hread hrequest
      | exportFile r =>
          rw [hrequest] at hsays
          obtain ⟨_, _, hr⟩ := hsays
          exact ((export_ends hread hrequest hr.out_ne_nil).2.2.2 hzero).resolve_right
            fun ⟨⟨cause, hfailed⟩, _⟩ => hexit cause hfailed
      | compile r =>
          rw [hrequest] at hsays
          obtain ⟨_, _, hr⟩ := hsays
          exact ((compile_ends hread hrequest hr.out_ne_nil).2.2 hzero).resolve_right
            fun ⟨⟨cause, hfailed⟩, _⟩ => hexit cause hfailed

/--
**A run that writes is all or nothing, but for the writing itself.**

A run that ends with a code other than 0 leaves all files as they were, and so does one whose line
is not read, or that lists fields. An export ends well just if the template is there, all numbers
are those of fields, there is something to deliver and its file can be written and shown; then this
file holds what the session exports after the edits, and every other file is as it was. The edits
are made as the options stand on the line: values, then moves, then choices for embedding, each of
the one field that has its number. With a number that no field has it ends with 2, and with 1 if
there is nothing to deliver. A compilation ends well just if it is complete and its file can be
written and shown, and then it has written this file and nothing else; it ends with 1 if it is
incomplete. A run that fails leaves all files as they were, or it fails in writing its file or in
showing the path: then the file has what could be written, and every other file is as it was.
-/
theorem run_is_all_or_nothing (program : Text) (around : Surroundings) (store : Store)
    (line : List Text) :
    let o := run program around store line
    (∀ code, o.ending = .exit code → code ≠ 0 → o.store = store) ∧
    (∀ stop, Invocation.read line = .error stop → o.store = store) ∧
    ∀ i, Invocation.read line = .ok i →
      match i.request with
      | .fields _ => o.store = store
      | .exportFile r =>
        (∃ options, Given .exportFile line options ∧ r.Says options) ∧
        (o.ending = .exit 0 ↔ ∃ session, Opens around store i session ∧
          ∃ edited, Edited session (editsOf r) edited ∧ edited.exportFile.ok = true ∧
            Delivered around store (Path.ofText i.template) r.out edited.exportFile o.store) ∧
        (o.ending = .exit 1 ↔ ∃ session, Opens around store i session ∧
          ∃ edited, Edited session (editsOf r) edited ∧ edited.exportFile.ok = false) ∧
        (o.ending = .exit 2 ↔ ∃ session, Opens around store i session ∧
          ∃ edit ∈ editsOf r, ¬ HasNumber session edit.1) ∧
        (o.ending ≠ .exit 0 → o.store = store ∨ (∃ cause, o.ending = .failed cause) ∧
          ∃ session, Opens around store i session ∧
            ∃ edited, Edited session (editsOf r) edited ∧ edited.exportFile.ok = true ∧
              Spoiled around store (Path.ofText i.template) r.out edited.exportFile o.store)
      | .compile r =>
        (∃ options, Given .compile line options ∧ r.Says options) ∧
        (o.ending = .exit 0 ↔ ∃ file, Compiles around store i r (.ok file) ∧
          Delivered around store (Path.ofText i.template) r.out file o.store) ∧
        (o.ending = .exit 1 ↔ ∃ e, Compiles around store i r (.error e)) ∧
        (o.ending ≠ .exit 0 → o.store = store ∨ (∃ cause, o.ending = .failed cause) ∧
          ∃ file, Compiles around store i r (.ok file) ∧
            Spoiled around store (Path.ofText i.template) r.out file o.store) := by
  intro o
  refine ⟨fun code hcode hne => store_of_exit hcode hne, fun stop => store_of_read_eq_error,
    fun i hread => ?_⟩
  have hsays := says_of_read hread
  cases hrequest : i.request with
  | fields structured => exact store_of_fields hread hrequest
  | exportFile r =>
      rw [hrequest] at hsays
      obtain ⟨options, hgiven, hr⟩ := hsays
      exact ⟨⟨options, hgiven, hr⟩, export_ends hread hrequest hr.out_ne_nil⟩
  | compile r =>
      rw [hrequest] at hsays
      obtain ⟨options, hgiven, hr⟩ := hsays
      exact ⟨⟨options, hgiven, hr⟩, compile_ends hread hrequest hr.out_ne_nil⟩

/-! ## Runs that write -/

/-- Surroundings in which nothing goes wrong. -/
def calm : Surroundings where
  toolkit := Adapters.toolkit
  idText _ := []

/-- A store with a template in the current folder. -/
def storeWith (name : Text) (template : String) : Store where
  files := [([name], Utf8.encode template.toList)]

/-- A template for a printer in the current folder. -/
def printerFile : Store := storeWith "label.prn".toList "^XA^FT1,2^FDa^FS^XZ"

/-- Without a settings file the files that are exported have the usual extension. -/
theorem exists_settingsOf_printerFile : ∃ settings,
    settingsOf calm printerFile.read none = .ok settings ∧
      settings.naming.extension = ".zpl".toList := by
  have hextension : (settingsOf calm printerFile.read none).toOption.map (·.naming.extension) =
      some ".zpl".toList := by decide +kernel
  cases hsettings : settingsOf calm printerFile.read none with
  | error cause =>
      rw [hsettings] at hextension
      exact nomatch hextension
  | ok settings =>
      rw [hsettings] at hextension
      exact ⟨settings, rfl, Option.some.inj hextension⟩

/-- A value, a position and a choice for embedding in one export. -/
theorem export_of_edits_ends_well :
    let name := "label.prn".toList
    let store := storeWith name "~DGA,1,1,00^XA^FT1,2^FDa^FS^FO3,4^XGA,1,1^FS^XZ"
    let line := ["export", "label.prn", "--set", "1=b", "--move", "1=5,6", "--embed", "0"].map
      String.toList
    let r : ExportRequest :=
      { assignments := [⟨1, ['b']⟩], moves := [⟨1, ⟨5, 6⟩⟩], embeds := [0] }
    let i : Invocation := { settingsFile := none, template := name, request := .exportFile r }
    let o := run [] calm store line
    Invocation.read line = .ok i ∧ o.ending = .exit 0 ∧
      (∃ session, Opens calm store i session ∧ ∃ edited, Edited session (editsOf r) edited ∧
        edited.exportFile.ok = true ∧
        Delivered calm store (Path.ofText name) none edited.exportFile o.store) ∧
      o.store.bytesAt? ["label.zpl".toList] =
        some (Utf8.encode "^XA\n~DGA,1,1,00\n^FT5,6^FH^FDb^FS^FO3,4^XGA,1,1^FS^XZ".toList) := by
  intro name store line r i o
  obtain ⟨hread, hending, hbytes⟩ : Invocation.read line = .ok i ∧ o.ending = .exit 0 ∧
      o.store.bytesAt? ["label.zpl".toList] =
        some (Utf8.encode "^XA\n~DGA,1,1,00\n^FT5,6^FH^FDb^FS^FO3,4^XGA,1,1^FS^XZ".toList) := by
    decide +kernel
  exact ⟨hread, hending,
    ((run_is_all_or_nothing [] calm store line).2.2 i hread).2.1.mp hending, hbytes⟩

/--
A character that cannot be written leaves the file empty that was opened for it, and a run that
shows its help ends well without a file.
-/
theorem stray_characters_and_help_break_the_rule :
    (¬ ∀ (program : Text) (around : Surroundings) (store : Store) (line : List Text),
      (run program around store line).ending ≠ .exit 0 →
      (run program around store line).store = store) ∧
    ¬ ∀ (program : Text) (around : Surroundings) (store : Store) (template : Text)
      (options : List Text) (settings : Settings) (path : Path) (place : List Text),
      settingsOf around store.read none = .ok settings →
      (∀ option ∈ options, ¬ "--o".toList <+: option) →
      Target (Path.ofText template) ((Path.ofText template).stem ++ settings.naming.extension) none
        path →
      store.Writable path place →
      let o := run program around store ("export".toList :: template :: options)
      o.ending = .exit 0 → o.store.bytesAt? place ≠ none := by
  constructor
  · intro h
    let o := run [] (calm.withStray (· == '\uf8ff')) printerFile
      (["export", "label.prn", "--set", "0=\uf8ff"].map String.toList)
    have hspoiled : o.ending ≠ .exit 0 ∧ o.store ≠ printerFile := by decide +kernel
    exact hspoiled.2 (h _ _ _ _ hspoiled.1)
  · intro h
    obtain ⟨settings, hsettings, hextension⟩ := exists_settingsOf_printerFile
    let template := Path.ofText "label.prn".toList
    let path := Path.ofText "label.zpl".toList
    let place := ["label.zpl".toList]
    let o := run [] calm printerFile ["export".toList, "label.prn".toList, "--help".toList]
    obtain ⟨hname, hnames, hpath⟩ : Path.isFileName (template.stem ++ ".zpl".toList) = true ∧
        template.names ≠ [] ∧ { template with
          names := template.names.dropLast ++ [template.stem ++ ".zpl".toList] } = path := by
      decide +kernel
    have htarget : Target template (template.stem ++ settings.naming.extension) none path := by
      rw [hextension, ← hpath]
      exact .beside hname hnames
    obtain ⟨hlocated, hfile, hending, hnothing⟩ : printerFile.locate path = .ok place ∧
        printerFile.isFolder place = false ∧ o.ending = .exit 0 ∧
        o.store.bytesAt? place = none := by
      decide +kernel
    exact h [] calm printerFile "label.prn".toList ["--help".toList] settings path place hsettings
      (by decide) htarget ⟨hlocated, hfile⟩ hending hnothing

end LabelTemplate.CommandLine
