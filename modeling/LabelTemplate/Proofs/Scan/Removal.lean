import LabelTemplate.Proofs.Scan.Rewriting

/-!
# Taking matches out

What stays of a text when its matches are taken out is not gone over again. Characters that were
apart stand next to each other in it, and a match may begin at one of them that began none before.
`replace_replace_iff` says that nothing else keeps the result from being final.
-/

namespace LabelTemplate.Scan

variable {α : Type} {recognise : Recogniser α}

/-- What stays of some pieces: the characters outside the matches. -/
def kept (ps : List (Piece α)) : Text :=
  ps.flatMap fun
    | .plain c => [c]
    | .hit _ _ => []

@[simp] theorem kept_nil : kept ([] : List (Piece α)) = [] := rfl

@[simp] theorem kept_plain (c : Char) (ps : List (Piece α)) :
    kept (.plain c :: ps) = c :: kept ps := rfl

@[simp] theorem kept_hit (a : α) (raw : Text) (ps : List (Piece α)) :
    kept (.hit a raw :: ps) = kept ps := rfl

@[simp] theorem kept_append (ps qs : List (Piece α)) : kept (ps ++ qs) = kept ps ++ kept qs :=
  List.flatMap_append

@[simp] theorem kept_map_plain (t : Text) : kept (t.map (.plain : Char → Piece α)) = t := by
  induction t with
  | nil => rfl
  | cons c cs ih => rw [List.map_cons, kept_plain, ih]

theorem replace_eq_kept (t : Text) :
    replace recognise (fun _ => []) t = kept (pieces recognise t) := rfl

/-- Where something stays, it begins with a character outside the matches. -/
theorem exists_of_suffix_kept {u : Text} (hu : u ≠ []) {ps : List (Piece α)} (h : u <:+ kept ps) :
    ∃ before c after, ps = before ++ .plain c :: after ∧ u = c :: kept after := by
  induction ps with
  | nil => exact absurd (List.suffix_nil.mp h) hu
  | cons p ps ih =>
      cases p with
      | plain c =>
          rw [kept_plain] at h
          rcases List.suffix_cons_iff.mp h with rfl | h
          · exact ⟨[], c, ps, rfl, rfl⟩
          · obtain ⟨before, d, after, rfl, rfl⟩ := ih h
            exact ⟨.plain c :: before, d, after, rfl, rfl⟩
      | hit a raw =>
          obtain ⟨before, d, after, rfl, rfl⟩ := ih h
          exact ⟨.hit a raw :: before, d, after, rfl, rfl⟩

/-- What stands at the beginning of what stays was in one piece, or a match stood in it. -/
theorem exists_of_kept_eq_append {h z : Text} {ps : List (Piece α)} (heq : kept ps = h ++ z) :
    (∃ rest, ps = h.map .plain ++ rest ∧ kept rest = z) ∨
      ∃ h₁ h₂ a raw rest, h = h₁ ++ h₂ ∧ h₂ ≠ [] ∧ ps = h₁.map .plain ++ .hit a raw :: rest ∧
        kept rest = h₂ ++ z := by
  induction ps generalizing h with
  | nil =>
      obtain ⟨rfl, rfl⟩ := List.append_eq_nil_iff.mp heq.symm
      exact .inl ⟨[], rfl, rfl⟩
  | cons p ps ih =>
      cases h with
      | nil => exact .inl ⟨p :: ps, rfl, heq⟩
      | cons c h =>
          cases p with
          | plain d =>
              rw [kept_plain, List.cons_append] at heq
              obtain ⟨rfl, htail⟩ := List.cons.inj heq
              rcases ih htail with ⟨rest, rfl, hrest⟩ | ⟨h₁, h₂, a, raw, rest, rfl, hne, rfl, hrest⟩
              · exact .inl ⟨rest, rfl, hrest⟩
              · exact .inr ⟨d :: h₁, h₂, a, raw, rest, rfl, hne, rfl, hrest⟩
          | hit a raw => exact .inr ⟨[], c :: h, a, raw, ps, rfl, by simp, rfl, heq⟩

/-- What stands between the matches is what stood there, unless there is a match. -/
theorem kept_eq_spell_or (ps : List (Piece α)) :
    kept ps = spell ps ∨ ∃ before a raw after, ps = before ++ .hit a raw :: after := by
  induction ps with
  | nil => exact .inl rfl
  | cons p ps ih =>
      cases p with
      | plain c =>
          rcases ih with ih | ⟨before, a, raw, after, rfl⟩
          · exact .inl (by rw [kept_plain, spell_cons, ih]; rfl)
          · exact .inr ⟨.plain c :: before, a, raw, after, rfl⟩
      | hit a raw => exact .inr ⟨[], a, raw, ps, rfl⟩

/-- A character outside the matches begins none. -/
theorem recognise_eq_none_of_plain (hex : Exact recognise) {t : Text} {c : Char}
    {before after : List (Piece α)} (h : pieces recognise t = before ++ .plain c :: after) :
    recognise (c :: spell after) = none := by
  have hpieces : pieces recognise (c :: spell after) = .plain c :: after :=
    pieces_of_eq_append hex before h
  cases hrec : recognise (c :: spell after) with
  | none => rfl
  | some found =>
      obtain ⟨a, n⟩ := found
      obtain ⟨hpos, hle⟩ := hex _ _ _ hrec
      rw [pieces_of_some hrec hpos hle] at hpieces
      exact absurd (List.cons.inj hpieces).1 (by simp)

/-- Taking matches out makes a text shorter if there is one. -/
theorem length_replace_nil (hex : Exact recognise) (t : Text) :
    (replace recognise (fun _ => []) t).length ≤ t.length ∧
      ∀ u, u <:+ t → recognise u ≠ none →
        (replace recognise (fun _ => []) t).length < t.length := by
  induction t using hex.induction with
  | nil =>
      refine ⟨Nat.le_refl 0, fun u hu hrec => ?_⟩
      obtain ⟨⟨a, n⟩, hsome⟩ := Option.ne_none_iff_exists'.mp hrec
      have hlength := hex _ _ _ hsome
      rw [List.suffix_nil.mp hu, List.length_nil] at hlength
      omega
  | plain c cs h ih =>
      rw [replace_of_none h, List.length_cons, List.length_cons]
      refine ⟨Nat.succ_le_succ ih.1, fun u hu hrec => Nat.succ_lt_succ (ih.2 u ?_ hrec)⟩
      exact (List.suffix_cons_iff.mp hu).resolve_left fun heq => hrec (heq ▸ h)
  | hit t a n h ih =>
      have hlength := hex _ _ _ h
      have hrest := ih.1
      rw [replace_of_some hex h, List.nil_append]
      rw [List.length_drop] at hrest
      exact ⟨by omega, fun _ _ _ => by omega⟩

/-- **Taking out again changes nothing just if no match begins at a character that stayed.** -/
theorem replace_replace_iff (hex : Exact recognise) (t : Text) :
    replace recognise (fun _ => []) (replace recognise (fun _ => []) t) =
        replace recognise (fun _ => []) t ↔
      ∀ before c after, pieces recognise t = before ++ .plain c :: after →
        recognise (c :: kept after) = none := by
  rw [replace_eq_kept t]
  constructor
  · intro heq before c after h
    by_contra hrec
    have hsuffix : c :: kept after <:+ kept (pieces recognise t) := by
      rw [h, kept_append]
      exact List.suffix_append _ _
    have hlt := (length_replace_nil hex _).2 _ hsuffix hrec
    rw [heq] at hlt
    exact Nat.lt_irrefl _ hlt
  · refine fun h => replace_eq_self fun u hu hsuffix => ?_
    obtain ⟨before, c, after, hpieces, rfl⟩ := exists_of_suffix_kept hu hsuffix
    exact h before c after hpieces

end LabelTemplate.Scan
