import LabelTemplate.CommandLine.Invocation
import LabelTemplate.Proofs.CommandLine.Steps
import Mathlib.Data.List.Forall2
import Mathlib.Data.List.Induction

/-!
# What the options of a line ask for

Reading a command line interleaves three things: words are claimed, options take effect, and what
is wrong is complained of. `given` are the options alone, in the order of the line, and what an
option does to the operand and to the words left over is nothing to them. So the request that is
read is a fold over `given` (`state_of_takeAll`), and what it holds can be said option by option:
edits stand in it in the order of the line, and of the file to write the last one counts.
-/

namespace LabelTemplate.CommandLine

/--
The options among some words with their values, in the order in which they stand there. A value
is attached to its option or is the next word.
-/
def given : List (Word × Text) → List (Switch × Text)
  | [] => []
  | (.option s attached, _) :: rest =>
    let next := (rest.head?.map Prod.snd).getD []
    (s, if s.placeholder?.isSome then attached.getD next else []) :: given rest
  | _ :: rest => given rest

/-- The values of an option. -/
def values (s : Switch) (options : List (Switch × Text)) : List Text :=
  (options.filter (·.1 == s)).map Prod.snd

/-- Some options stand on a line behind the name of a command. -/
def Given (command : CommandName) (words : List Text) (options : List (Switch × Text)) : Prop :=
  ∃ front behind classified, words = front ++ command.name :: behind ∧
    Word.classifyAll (Form.ofCommand command).switches behind = .ok classified ∧
    options = given classified

/-- A request to edit fields that says what some options say. -/
structure ExportRequest.Says (options : List (Switch × Text)) (r : ExportRequest) : Prop where
  /-- The new values are those of the options for values. -/
  assignments : List.Forall₂ (fun value a => Assignment.read value = .ok a)
    (values .set options) r.assignments
  /-- The new positions are those of the options for moves. -/
  moves : List.Forall₂ (fun value m => Move.read value = .ok m) (values .move options) r.moves
  /-- The numbers are those of the options for embedding. -/
  embeds : List.Forall₂ (fun value n => Integer.read value = .ok n) (values .embed options) r.embeds
  /-- The last file that is named is written, if its path is not empty. -/
  out : r.out = (values .out options).getLast?.bind unlessEmpty

/-- A request to append graphics that says what some options say. -/
structure CompileRequest.Says (options : List (Switch × Text)) (r : CompileRequest) : Prop where
  /-- The files are those of the options for images. -/
  images : r.images = values .image options
  /-- The last comment counts. -/
  comment : r.comment = (values .comment options).getLast?.getD []
  /-- The last file that is named is written, if its path is not empty. -/
  out : r.out = (values .out options).getLast?.bind unlessEmpty

/-! ## What the options bring about, and where the operand is -/

section

variable {σ : Type} {form : Form} {effect : Switch → Text → σ → Except Refusal σ}
variable {words : List (Word × Text)} {r r' : Reading σ}

/-- What options bring about, one after the other. -/
def takeEffects (effect : Switch → Text → σ → Except Refusal σ) (start : σ)
    (options : List (Switch × Text)) : Except Refusal σ :=
  options.foldlM (fun state o => effect o.1 o.2 state) start

theorem given_append_of_noOption {front rest : List (Word × Text)}
    (h : ∀ w ∈ front, NoOption w) : given (front ++ rest) = given rest := by
  induction front with
  | nil => rfl
  | cons w front ih =>
      rw [List.forall_mem_cons] at h
      obtain ⟨w, text⟩ := w
      cases w with
      | option s attached => exact absurd rfl (h.1 s attached)
      | plain | stop | help | unknown => exact ih h.2

theorem Reading.takeValue_eq_ok_iff {s : Switch} {value : Text} {next : Reading σ} :
    takeValue effect r s value = .ok next ↔ ∃ state, effect s value r.state = .ok state ∧
      next = { r with state := state, taken := s :: r.taken } := by
  rw [takeValue]
  cases effect s value r.state with
  | error cause => simp
  | ok state => simp [eq_comm]

/-- **The state at the end is what the options bring about.** -/
theorem Reading.state_of_takeAll (hform : form.operand = .template)
    (h : takeAll form effect words r = .ok r') :
    takeEffects effect r.state (given words) = .ok r'.state := by
  have hoption : ∀ {s : Switch} {value : Text} {options : List (Switch × Text)}
      {r next : Reading σ}, takeValue effect r s value = .ok next →
      takeEffects effect next.state options = .ok r'.state →
      takeEffects effect r.state ((s, value) :: options) = .ok r'.state := by
    intro s value options r next hvalue hrest
    obtain ⟨state, heffect, rfl⟩ := takeValue_eq_ok_iff.mp hvalue
    exact bind_eq_ok_iff.mpr ⟨state, heffect, hrest⟩
  refine takeAll_induction (P := fun words r =>
    takeEffects effect r.state (given words) = .ok r'.state) rfl (fun hnext ih => ?_) h
  cases hnext with
  | command hcommand => exact nomatch hform.symm.trans hcommand
  | template _ _ hfront => rwa [given_append_of_noOption hfront]
  | left hw =>
      rwa [← List.singleton_append, given_append_of_noOption (List.forall_mem_singleton.mpr hw)]
  | flag hs hvalue =>
      rw [given, hs]
      exact hoption hvalue ih
  | attached hs hvalue =>
      rw [given, if_pos hs]
      exact hoption hvalue ih
  | separate hs hvalue =>
      rw [given, if_pos hs]
      exact hoption hvalue ih

/-- A step leaves the end of the words, and so does the operand that it finds. -/
theorem Reading.Step.isSuffix (hform : form.operand = .command) {rest : List (Word × Text)}
    {next : Reading σ} (h : Step form effect r words rest next) :
    rest <:+ words ∧ (next.operand = r.operand ∨ next.operand <:+ words.map Prod.snd) := by
  cases h with
  | command => exact ⟨List.nil_suffix, .inr List.suffix_rfl⟩
  | template _ htemplate => exact nomatch hform.symm.trans htemplate
  | left => exact ⟨List.suffix_cons _ _, .inl rfl⟩
  | flag _ hvalue | attached _ hvalue =>
      obtain ⟨state, _, rfl⟩ := takeValue_eq_ok_iff.mp hvalue
      exact ⟨List.suffix_cons _ _, .inl rfl⟩
  | separate _ hvalue =>
      obtain ⟨state, _, rfl⟩ := takeValue_eq_ok_iff.mp hvalue
      exact ⟨List.suffix_append [_, _] _, .inl rfl⟩

/-- **The operand of a whole line takes everything behind it along.** -/
theorem Reading.operand_of_takeAll (hform : form.operand = .command)
    (h : takeAll form effect words r = .ok r') :
    r'.operand = r.operand ∨ r'.operand <:+ words.map Prod.snd := by
  refine takeAll_induction (P := fun words r =>
    r'.operand = r.operand ∨ r'.operand <:+ words.map Prod.snd) (.inl rfl) (fun hnext ih => ?_) h
  obtain ⟨hrest, hoperand⟩ := hnext.isSuffix hform
  rcases ih with heq | hsuffix
  · rwa [heq]
  · exact .inr (hsuffix.trans (hrest.map Prod.snd))

theorem map_snd_classifyAll {switches : List Switch} {line : List Text}
    (h : Word.classifyAll switches line = .ok words) : words.map Prod.snd = line := by
  induction line generalizing words with
  | nil =>
      obtain rfl := Except.ok.inj h
      rfl
  | cons word line ih =>
      rw [Word.classifyAll] at h
      split at h
      · obtain rfl := Except.ok.inj h
        rw [List.map_cons, List.map_map]
        exact congrArg (word :: ·) (List.map_id' line)
      · obtain ⟨w, _, h⟩ := bind_eq_ok_iff.mp h
        obtain ⟨ws, hws, h⟩ := bind_eq_ok_iff.mp h
        obtain rfl := Except.ok.inj h
        rw [List.map_cons, ih hws]

theorem Reading.ofWords_eq_ok {start : σ} {line : List Text}
    (h : ofWords form effect start line = .ok r) :
    ∃ words, Word.classifyAll form.switches line = .ok words ∧
      takeAll form effect words { state := start } = .ok r ∧ r.operand ≠ [] := by
  obtain ⟨words, hwords, h⟩ := bind_eq_ok_iff.mp h
  obtain ⟨last, hlast, h⟩ := bind_eq_ok_iff.mp h
  cases hmissing : missing form last with
  | cons name names =>
      rw [hmissing] at h
      exact nomatch h
  | nil =>
      rw [hmissing] at h
      obtain rfl := Except.ok.inj h
      refine ⟨words, mapError_eq_ok_iff.mp hwords, hlast, fun hoperand => ?_⟩
      -- without an operand, its name would be missing
      rw [missing, hoperand] at hmissing
      exact absurd hmissing (by simp)

end

/-! ## Requests -/

/-- Requests stay of their kind, and options do to them what they do to requests of that kind. -/
theorem exists_of_takeEffects_map {σ τ : Type} {effect' : Switch → Text → τ → Except Refusal τ}
    (g : σ → τ) (effect : Switch → Text → σ → Except Refusal σ)
    (hg : ∀ s value state, effect' s value (g state) = (effect s value state).map g)
    {options : List (Switch × Text)} {start : σ} {last : τ}
    (h : takeEffects effect' (g start) options = .ok last) :
    ∃ state, takeEffects effect start options = .ok state ∧ g state = last := by
  induction options generalizing start with
  | nil => exact ⟨start, rfl, Except.ok.inj h⟩
  | cons o options ih =>
      rw [takeEffects, List.foldlM_cons, bind_eq_ok_iff] at h
      obtain ⟨next, hnext, h⟩ := h
      rw [hg, map_eq_ok_iff] at hnext
      obtain ⟨state, hstate, rfl⟩ := hnext
      obtain ⟨later, hlater, hlast⟩ := ih h
      refine ⟨later, ?_, hlast⟩
      rw [takeEffects, List.foldlM_cons, bind_eq_ok_iff]
      exact ⟨state, hstate, hlater⟩

/-- **A request is what the options behind the name of its command bring about.** -/
theorem takeEffects_of_read {line : List Text} {i : Invocation} (h : Invocation.read line = .ok i) :
    ∃ command options, Given command line options ∧
      takeEffects Request.effect (Request.plain command) options = .ok i.request := by
  obtain ⟨whole, hwhole, h⟩ := bind_eq_ok_iff.mp h
  obtain ⟨words, hwords, htake, hne⟩ := Reading.ofWords_eq_ok (mapError_eq_ok_iff.mp hwhole)
  obtain ⟨name, tail, hoperand⟩ := List.exists_cons_of_ne_nil hne
  simp only [hoperand, List.headD_cons, List.tail_cons] at h
  cases hcommand : CommandName.ofText? name with
  | none =>
      rw [hcommand] at h
      exact nomatch h
  | some command =>
      rw [hcommand] at h
      obtain ⟨behind, hbehind, h⟩ := bind_eq_ok_iff.mp h
      obtain ⟨classified, hclassified, htake', _⟩ :=
        Reading.ofWords_eq_ok (mapError_eq_ok_iff.mp hbehind)
      have hname : command.name = name := by
        simpa using List.find?_some (p := fun c : CommandName => c.name == name) hcommand
      have hrequest : behind.state = i.request := by
        split at h
        · exact congrArg Invocation.request (Except.ok.inj h)
        · exact nomatch h
      -- the operand of the whole line is what is left of the line from the command on
      have hsuffix := (Reading.operand_of_takeAll rfl htake).resolve_left hne
      rw [map_snd_classifyAll hwords, hoperand] at hsuffix
      obtain ⟨front, hfront⟩ := hsuffix
      refine ⟨command, given classified, ⟨front, tail, classified, ?_, ?_, rfl⟩, ?_⟩
      · rw [hname, hfront]
      · cases command <;> exact hclassified
      · rw [← hrequest]
        exact Reading.state_of_takeAll (by cases command <;> rfl) htake'

theorem values_append_singleton (s s' : Switch) (value : Text) (options : List (Switch × Text)) :
    values s (options ++ [(s', value)]) =
      if s' = s then values s options ++ [value] else values s options := by
  rw [values, List.filter_append, List.map_append]
  split
  · rename_i h
    rw [List.filter_cons_of_pos (by simpa using h)]
    rfl
  · rename_i h
    rw [List.filter_cons_of_neg (by simpa using h)]
    exact List.append_nil _

theorem exists_of_takeEffects_append_singleton {σ : Type}
    {effect : Switch → Text → σ → Except Refusal σ} {start state : σ} {o : Switch × Text}
    {options : List (Switch × Text)}
    (h : takeEffects effect start (options ++ [o]) = .ok state) :
    ∃ before, takeEffects effect start options = .ok before ∧
      effect o.1 o.2 before = .ok state := by
  rw [takeEffects, List.foldlM_append, bind_eq_ok_iff] at h
  obtain ⟨before, hbefore, h⟩ := h
  rw [List.foldlM_cons, bind_eq_ok_iff] at h
  obtain ⟨last, hlast, h⟩ := h
  exact ⟨before, hbefore, hlast.trans h⟩

/-- **Edits add up in the order of the line.** -/
theorem ExportRequest.says_of_takeEffects {options : List (Switch × Text)} {r : ExportRequest}
    (h : takeEffects Request.exportEffect {} options = .ok r) : r.Says options := by
  induction options using List.reverseRecOn generalizing r with
  | nil =>
      obtain rfl := Except.ok.inj h
      exact ⟨.nil, .nil, .nil, rfl⟩
  | append_singleton options o ih =>
      obtain ⟨before, hbefore, h⟩ := exists_of_takeEffects_append_singleton h
      obtain ⟨hassignments, hmoves, hembeds, hout⟩ := ih hbefore
      obtain ⟨s, value⟩ := o
      cases s with
      | set =>
          obtain ⟨a, ha, h⟩ := bind_eq_ok_iff.mp h
          obtain rfl := Except.ok.inj h
          constructor
          · rw [values_append_singleton, if_pos rfl]
            exact List.rel_append hassignments (.cons (mapError_eq_ok_iff.mp ha) .nil)
          all_goals simpa [values_append_singleton]
      | move =>
          obtain ⟨m, hm, h⟩ := bind_eq_ok_iff.mp h
          obtain rfl := Except.ok.inj h
          constructor
          case moves =>
            rw [values_append_singleton, if_pos rfl]
            exact List.rel_append hmoves (.cons (mapError_eq_ok_iff.mp hm) .nil)
          all_goals simpa [values_append_singleton]
      | embed =>
          obtain ⟨n, hn, h⟩ := bind_eq_ok_iff.mp h
          obtain rfl := Except.ok.inj h
          constructor
          case embeds =>
            rw [values_append_singleton, if_pos rfl]
            exact List.rel_append hembeds (.cons (mapError_eq_ok_iff.mp hn) .nil)
          all_goals simpa [values_append_singleton]
      | out =>
          obtain rfl := Except.ok.inj h
          constructor
          all_goals simp [values_append_singleton, hassignments, hmoves, hembeds]
      | config | json | image | comment =>
          obtain rfl := Except.ok.inj h
          constructor
          all_goals simpa [values_append_singleton]

theorem CompileRequest.says_of_takeEffects {options : List (Switch × Text)} {r : CompileRequest}
    (h : takeEffects Request.compileEffect {} options = .ok r) : r.Says options := by
  induction options using List.reverseRecOn generalizing r with
  | nil =>
      obtain rfl := Except.ok.inj h
      exact ⟨rfl, rfl, rfl⟩
  | append_singleton options o ih =>
      obtain ⟨before, hbefore, h⟩ := exists_of_takeEffects_append_singleton h
      obtain ⟨himages, hcomment, hout⟩ := ih hbefore
      obtain ⟨s, value⟩ := o
      cases s with
      | image | comment | out | config | json | set | move | embed =>
          obtain rfl := Except.ok.inj h
          constructor
          all_goals simp [values_append_singleton, himages, hcomment, hout]

/-- **What is asked for stands behind the name of the command.** -/
theorem says_of_read {line : List Text} {i : Invocation} (h : Invocation.read line = .ok i) :
    match i.request with
    | .fields _ => ∃ options, Given .fields line options
    | .exportFile r => ∃ options, Given .exportFile line options ∧ r.Says options
    | .compile r => ∃ options, Given .compile line options ∧ r.Says options := by
  obtain ⟨command, options, hgiven, hrequest⟩ := takeEffects_of_read h
  cases command with
  | fields =>
      obtain ⟨structured, _, hlast⟩ := exists_of_takeEffects_map Request.fields
        (fun _ _ _ => .ok true) (fun _ _ _ => rfl) hrequest
      rw [← hlast]
      exact ⟨options, hgiven⟩
  | exportFile =>
      obtain ⟨r, hr, hlast⟩ := exists_of_takeEffects_map Request.exportFile Request.exportEffect
        (fun _ _ _ => rfl) hrequest
      rw [← hlast]
      exact ⟨options, hgiven, ExportRequest.says_of_takeEffects hr⟩
  | compile =>
      obtain ⟨r, hr, hlast⟩ := exists_of_takeEffects_map Request.compile Request.compileEffect
        (fun _ _ _ => rfl) hrequest
      rw [← hlast]
      exact ⟨options, hgiven, CompileRequest.says_of_takeEffects hr⟩

end LabelTemplate.CommandLine
