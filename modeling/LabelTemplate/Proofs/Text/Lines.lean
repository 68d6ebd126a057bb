import LabelTemplate.Text.Basic
import Mathlib.Algebra.Ring.Nat

/-!
# Lines and their places

A text is its first line and then, for each further line, a line feed and that line.
`followed` is this second part. Other than `unlines` it is a homomorphism, so lines can be moved
about in it without a special case for the first one, and whatever it stands for is empty or begins
with a line feed.

`take_lineStart` and `take_lineEnd` turn a place that is counted in characters into
the lines in front of it.
-/

namespace LabelTemplate.Text

/-- Lines that come behind another one, each with the line feed in front of it. -/
def followed (ls : List Text) : Text := ls.flatMap fun l => '\n' :: l

/-- Where a line of a text starts: all lines before it and their line feeds are passed. -/
def lineStart (t : Text) (k : Nat) : Nat := (((lines t).take k).map fun l => l.length + 1).sum

/-- Where a line of a text ends; its line feed is behind that place. -/
def lineEnd (t : Text) (k : Nat) : Nat := lineStart t k + ((lines t).getD k []).length

@[simp] theorem followed_nil : followed [] = [] := rfl

@[simp] theorem followed_cons (l : Text) (ls : List Text) :
    followed (l :: ls) = '\n' :: (l ++ followed ls) := rfl

@[simp] theorem followed_append (ls ms : List Text) :
    followed (ls ++ ms) = followed ls ++ followed ms := List.flatMap_append

theorem eq_nil_or_of_followed (ls : List Text) :
    followed ls = [] ∨ ∃ u, followed ls = '\n' :: u := by
  cases ls with
  | nil => exact Or.inl rfl
  | cons l ls => exact Or.inr ⟨_, followed_cons l ls⟩

theorem length_followed (ls : List Text) :
    (followed ls).length = (ls.map fun l => l.length + 1).sum := by
  induction ls with
  | nil => rfl
  | cons l ls ih =>
      simp only [followed_cons, List.length_cons, List.length_append, List.map_cons, List.sum_cons,
        ih]
      omega

/-! ## Splitting and joining -/

/-- What is joined is the first piece and then each further one with the separator in front. -/
theorem joinWith_cons (sep l : Text) (ls : List Text) :
    joinWith sep (l :: ls) = l ++ ls.flatMap (sep ++ ·) := by
  induction ls generalizing l with
  | nil => simp [joinWith]
  | cons m ls ih => rw [joinWith, ih, List.flatMap_cons, List.append_assoc, List.append_assoc]

theorem unlines_cons (l : Text) (ls : List Text) : unlines (l :: ls) = l ++ followed ls :=
  joinWith_cons ['\n'] l ls

theorem unlines_append {ls : List Text} (hls : ls ≠ []) (ms : List Text) :
    unlines (ls ++ ms) = unlines ls ++ followed ms := by
  obtain ⟨l, ls, rfl⟩ := List.exists_cons_of_ne_nil hls
  rw [List.cons_append, unlines_cons, unlines_cons, followed_append, List.append_assoc]

theorem exists_splitOn_eq_cons (sep : Char) (t : Text) : ∃ l ls, splitOn sep t = l :: ls := by
  cases t with
  | nil => exact ⟨[], [], rfl⟩
  | cons c cs =>
      rw [splitOn]
      split
      · exact ⟨_, _, rfl⟩
      · split <;> exact ⟨_, _, rfl⟩

theorem splitOn_of_not_mem {sep : Char} {t : Text} (h : sep ∉ t) : splitOn sep t = [t] := by
  induction t with
  | nil => rfl
  | cons c cs ih =>
      rw [List.mem_cons, not_or] at h
      rw [splitOn, if_neg (Ne.symm h.1), ih h.2]

theorem splitOn_append_cons {sep : Char} {l : Text} (h : sep ∉ l) (t : Text) :
    splitOn sep (l ++ sep :: t) = l :: splitOn sep t := by
  induction l with
  | nil => rw [List.nil_append, splitOn, if_pos rfl]
  | cons c cs ih =>
      rw [List.mem_cons, not_or] at h
      rw [List.cons_append, splitOn, if_neg (Ne.symm h.1), ih h.2]

/-- The pieces of a text do not have its separator in them. -/
theorem not_mem_of_mem_splitOn {sep : Char} {t l : Text} (h : l ∈ splitOn sep t) : sep ∉ l := by
  induction t generalizing l with
  | nil => simp_all [splitOn]
  | cons c cs ih =>
      obtain ⟨m, ms, hcs⟩ := exists_splitOn_eq_cons sep cs
      rw [splitOn, hcs] at h
      rw [hcs] at ih
      split at h
      · rcases List.mem_cons.mp h with rfl | h
        · exact List.not_mem_nil
        · exact ih h
      · rename_i hc
        rcases List.mem_cons.mp h with rfl | h
        · rw [List.mem_cons, not_or]
          exact ⟨Ne.symm hc, ih List.mem_cons_self⟩
        · exact ih (List.mem_cons_of_mem _ h)

/-- **Joining the lines of a text gives the text.** -/
theorem unlines_lines (t : Text) : unlines (lines t) = t := by
  induction t with
  | nil => rfl
  | cons c cs ih =>
      obtain ⟨l, ls, hcs⟩ := exists_splitOn_eq_cons '\n' cs
      rw [lines, hcs, unlines_cons] at ih
      rw [lines, splitOn, hcs]
      split
      · rename_i hc
        rw [unlines_cons, followed_cons, ih, hc]
        rfl
      · rw [unlines_cons, List.cons_append, ih]

/-- **Lines that are joined are the lines of the text.** -/
theorem lines_unlines {ls : List Text} (hls : ls ≠ []) (h : ∀ l ∈ ls, '\n' ∉ l) :
    lines (unlines ls) = ls := by
  obtain ⟨l, ls, rfl⟩ := List.exists_cons_of_ne_nil hls
  induction ls generalizing l with
  | nil => exact splitOn_of_not_mem (h l List.mem_cons_self)
  | cons m ls ih =>
      rw [List.forall_mem_cons] at h
      rw [unlines_cons, followed_cons, ← unlines_cons, lines, splitOn_append_cons h.1]
      exact congrArg (l :: ·) (ih m (by simp) h.2)

/-! ## The lines in front of a place -/

theorem length_unlines_append_feed {ls : List Text} (hls : ls ≠ []) :
    (unlines ls ++ ['\n']).length = (ls.map fun l => l.length + 1).sum := by
  obtain ⟨l, ls, rfl⟩ := List.exists_cons_of_ne_nil hls
  rw [unlines_cons, List.length_append, List.length_append, length_followed, List.map_cons,
    List.sum_cons]
  simp only [List.length_singleton]
  omega

/-- In front of the start of a line stand the lines before it and a line feed. -/
theorem take_lineStart {t l : Text} {ls ms : List Text} (ht : lines t = ls ++ l :: ms)
    (hls : ls ≠ []) : t.take (lineStart t ls.length) = unlines ls ++ ['\n'] := by
  have hpre : unlines ls ++ ['\n'] <+: t := by
    rw [← unlines_lines t, ht, unlines_append hls, followed_cons]
    exact ⟨l ++ followed ms, by simp⟩
  rw [lineStart, ht, List.take_left, ← length_unlines_append_feed hls]
  exact (List.prefix_iff_eq_take.mp hpre).symm

/-- In front of the end of a line stand the lines up to it. -/
theorem take_lineEnd {t l : Text} {ls ms : List Text} (ht : lines t = ls ++ l :: ms) :
    t.take (lineEnd t ls.length) = unlines (ls ++ [l]) := by
  have hne : ls ++ [l] ≠ [] := by simp
  have hpre : unlines (ls ++ [l]) <+: t := by
    rw [← unlines_lines t, ht, List.append_cons ls l ms, unlines_append hne ms]
    exact List.prefix_append _ _
  have hlength : lineEnd t ls.length = (unlines (ls ++ [l])).length := by
    have hget : (lines t).getD ls.length [] = l := by simp [ht]
    have hfeed := length_unlines_append_feed hne
    rw [List.length_append, List.map_append, List.sum_append] at hfeed
    simp only [List.length_singleton, List.map_cons, List.map_nil, List.sum_singleton] at hfeed
    rw [lineEnd, lineStart, hget, ht, List.take_left]
    omega
  rw [hlength]
  exact (List.prefix_iff_eq_take.mp hpre).symm

end LabelTemplate.Text
