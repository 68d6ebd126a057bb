import LabelTemplate.CommandLine.Reading
import LabelTemplate.Proofs.Success

/-!
# Reading step by step

Words are taken from left to right, and each step takes the first word and perhaps one or two
beside it. What a step can do is said once (`Reading.Step`); whatever a reading of all words brings
about follows from that by `takeAll_induction`, with one case for each thing that a step can do.
-/

namespace LabelTemplate.CommandLine

variable {σ : Type} {form : Form} {effect : Switch → Text → σ → Except Refusal σ}
variable {words : List (Word × Text)} {r r' : Reading σ}

/-- Is this no option of a form? -/
def NoOption (w : Word × Text) : Prop := ∀ s attached, w.1 ≠ .option s attached

/-- A step of reading: the words before it, those it leaves, and the reading after it. -/
inductive Reading.Step (form : Form) (effect : Switch → Text → σ → Except Refusal σ)
    (r : Reading σ) : List (Word × Text) → List (Word × Text) → Reading σ → Prop
  /-- The operand of a whole line takes everything behind it along. -/
  | command {w : Word × Text} {rest : List (Word × Text)} (hform : form.operand = .command) :
    Step form effect r (w :: rest) [] { r with operand := w.2 :: rest.map Prod.snd }
  /-- A word is the operand of a command; there may be a mark on either side of it. -/
  | template {w : Word × Text} (front : List (Word × Text)) {rest : List (Word × Text)}
    {word : Text} (hform : form.operand = .template) (hfront : ∀ v ∈ w :: front, NoOption v) :
    Step form effect r (w :: front ++ rest) rest { r with operand := [word] }
  /-- A word is left over. -/
  | left {w : Word × Text} {rest : List (Word × Text)} (hw : NoOption w) :
    Step form effect r (w :: rest) rest (r.leave w.2)
  /-- An option takes effect that takes no value. -/
  | flag {s : Switch} {text : Text} {rest : List (Word × Text)} {next : Reading σ}
    (hs : s.placeholder? = none) (hvalue : takeValue effect r s [] = .ok next) :
    Step form effect r ((.option s none, text) :: rest) rest next
  /-- An option takes effect whose value is attached to it. -/
  | attached {s : Switch} {value text : Text} {rest : List (Word × Text)} {next : Reading σ}
    (hs : s.placeholder?.isSome) (hvalue : takeValue effect r s value = .ok next) :
    Step form effect r ((.option s (some value), text) :: rest) rest next
  /-- An option takes effect whose value is the next word. -/
  | separate {s : Switch} {value text : Text} {rest : List (Word × Text)} {next : Reading σ}
    (hs : s.placeholder?.isSome) (hvalue : takeValue effect r s value = .ok next) :
    Step form effect r ((.option s none, text) :: (.plain, value) :: rest) rest next

theorem Reading.Step.length_lt {rest : List (Word × Text)} {next : Reading σ}
    (h : Step form effect r words rest next) : rest.length < words.length := by
  cases h <;> simp only [List.length_cons, List.length_append, List.length_nil] <;> omega

/-! ## The first step -/

/-- The first word can be taken, and everything behind the step. -/
def Reading.Goes (form : Form) (effect : Switch → Text → σ → Except Refusal σ)
    (words : List (Word × Text)) (r r' : Reading σ) : Prop :=
  ∃ rest next, Step form effect r words rest next ∧ takeAll form effect rest next = .ok r'

theorem Reading.goes_of_plain {word : Text} {rest : List (Word × Text)}
    (h : takeAll form effect ((.plain, word) :: rest) r = .ok r') :
    Goes form effect ((.plain, word) :: rest) r r' := by
  unfold takeAll at h
  cases hform : form.operand with
  | command =>
      simp only [hform] at h
      exact ⟨_, _, .command hform, h⟩
  | template =>
      cases hoperand : r.operand with
      | cons first others =>
          simp only [hform, hoperand] at h
          exact ⟨_, _, .left nofun, h⟩
      | nil =>
          rcases rest with _ | ⟨⟨next, text⟩, rest⟩
          · simp only [hform, hoperand] at h
            exact ⟨_, _, .template [] hform (by simp [NoOption]), h⟩
          -- a mark behind the operand goes with it
          cases next with
          | stop =>
              simp only [hform, hoperand] at h
              exact ⟨_, _, .template [(.stop, text)] hform (by simp [NoOption]), h⟩
          | plain | help | option | unknown =>
              simp only [hform, hoperand] at h
              exact ⟨_, _, .template [] hform (by simp [NoOption]), h⟩

theorem Reading.goes_of_stop {word : Text} {rest : List (Word × Text)}
    (h : takeAll form effect ((.stop, word) :: rest) r = .ok r') :
    Goes form effect ((.stop, word) :: rest) r r' := by
  unfold takeAll at h
  cases hform : form.operand with
  | command =>
      cases rest with
      | nil =>
          cases hoperand : r.operand <;> simp only [hform, hoperand] at h <;>
            exact ⟨_, _, .left nofun, h⟩
      | cons next rest =>
          simp only [hform] at h
          exact ⟨_, _, .command hform, h⟩
  | template =>
      cases hoperand : r.operand with
      | cons first others =>
          simp only [hform, hoperand] at h
          exact ⟨_, _, .left nofun, h⟩
      | nil =>
          rcases rest with _ | ⟨⟨next, text⟩, rest⟩
          · simp only [hform, hoperand] at h
            exact ⟨_, _, .left nofun, h⟩
          -- behind a mark only a plain word is the operand
          cases next with
          | plain =>
              simp only [hform, hoperand] at h
              exact ⟨_, _, .template [(.plain, text)] hform (by simp [NoOption]), h⟩
          | stop | help | option | unknown =>
              simp only [hform, hoperand] at h
              exact ⟨_, _, .left nofun, h⟩

theorem Reading.goes_of_option {s : Switch} {attached : Option Text} {word : Text}
    {rest : List (Word × Text)}
    (h : takeAll form effect ((.option s attached, word) :: rest) r = .ok r') :
    Goes form effect ((.option s attached, word) :: rest) r r' := by
  unfold takeAll at h
  cases hs : s.placeholder? with
  | none =>
      cases attached with
      | some value =>
          simp only [hs] at h
          exact nomatch h
      | none =>
          simp only [hs] at h
          obtain ⟨next, hvalue, h⟩ := bind_eq_ok_iff.mp h
          exact ⟨_, _, .flag hs hvalue, h⟩
  | some name =>
      cases attached with
      | some value =>
          simp only [hs] at h
          obtain ⟨next, hvalue, h⟩ := bind_eq_ok_iff.mp h
          exact ⟨_, _, .attached (hs ▸ rfl) hvalue, h⟩
      | none =>
          rcases rest with _ | ⟨⟨next, text⟩, rest⟩
          · simp only [hs] at h
            exact nomatch h
          cases next with
          | plain =>
              simp only [hs] at h
              obtain ⟨next, hvalue, h⟩ := bind_eq_ok_iff.mp h
              exact ⟨_, _, .separate (hs ▸ rfl) hvalue, h⟩
          | stop | help | option | unknown =>
              simp only [hs] at h
              exact nomatch h

/-- **Words that are all taken are taken step by step.** -/
theorem Reading.goes_of_takeAll {w : Word × Text} {rest : List (Word × Text)}
    (h : takeAll form effect (w :: rest) r = .ok r') : Goes form effect (w :: rest) r r' := by
  obtain ⟨w, text⟩ := w
  cases w with
  | plain => exact goes_of_plain h
  | stop => exact goes_of_stop h
  | help attached => cases attached <;> exact nomatch h
  | option s attached => exact goes_of_option h
  | unknown => exact ⟨_, _, .left nofun, h⟩

/-! ## All steps -/

/-- What holds of the end, and before a step if it holds after it, holds from the start on. -/
theorem Reading.takeAll_induction {P : List (Word × Text) → Reading σ → Prop} (hdone : P [] r')
    (hstep : ∀ {words rest : List (Word × Text)} {r next : Reading σ},
      Step form effect r words rest next → P rest next → P words r)
    (h : takeAll form effect words r = .ok r') : P words r := by
  -- a step takes up to three words, so the induction is on how many there are
  induction hlength : words.length using Nat.strongRecOn generalizing words r with
  | ind n ih =>
      subst hlength
      cases words with
      | nil => exact Except.ok.inj h ▸ hdone
      | cons w words =>
          obtain ⟨rest, next, hnext, hrest⟩ := goes_of_takeAll h
          exact hstep hnext (ih _ hnext.length_lt hrest rfl)

end LabelTemplate.CommandLine
