import LabelTemplate.Text.Scan

/-!
# How a scan falls into pieces

The scan is written with a counter that skips the rest of a match. Nothing else needs
to know: `pieces_of_none` and `pieces_of_some` say what the scan does at a place, and
`Exact.induction` is the induction that goes with them.

Two facts carry everything that is said about scans later. The pieces of a text spell
it, and a scan falls apart at every place that no match straddles: what stands before
the place does not matter to the matches behind it.
-/

namespace LabelTemplate.Scan

variable {α : Type} {recognise : Recogniser α}

/-- The text that some pieces stand for. -/
def spell (ps : List (Piece α)) : Text := ps.flatMap Piece.text

@[simp] theorem spell_nil : spell ([] : List (Piece α)) = [] := rfl

@[simp] theorem spell_cons (p : Piece α) (ps : List (Piece α)) :
    spell (p :: ps) = p.text ++ spell ps := rfl

@[simp] theorem spell_append (ps qs : List (Piece α)) :
    spell (ps ++ qs) = spell ps ++ spell qs := List.flatMap_append

/-- The matches that are reported have a character, and lie within the text. -/
def Exact (recognise : Recogniser α) : Prop :=
  ∀ t a n, recognise t = some (a, n) → 0 < n ∧ n ≤ t.length

/-! ## One step of the scan -/

theorem piecesFrom_eq (skip : Nat) (t : Text) :
    piecesFrom recognise skip t = pieces recognise (t.drop skip) := by
  induction t generalizing skip with
  | nil => cases skip <;> rfl
  | cons c cs ih =>
      cases skip with
      | zero => rfl
      | succ skip => rw [piecesFrom, ih, List.drop_succ_cons]

@[simp] theorem pieces_nil : pieces recognise [] = [] := rfl

theorem pieces_of_none {c : Char} {cs : Text} (h : recognise (c :: cs) = none) :
    pieces recognise (c :: cs) = .plain c :: pieces recognise cs := by
  rw [pieces, piecesFrom, h]
  rfl

theorem pieces_of_some {t : Text} {a : α} {n : Nat} (h : recognise t = some (a, n))
    (hpos : 0 < n) (hle : n ≤ t.length) :
    pieces recognise t = .hit a (t.take n) :: pieces recognise (t.drop n) := by
  cases t with
  | nil => exact absurd hpos (by simpa using hle)
  | cons c cs =>
      obtain ⟨m, rfl⟩ : ∃ m, n = m + 1 := ⟨n - 1, by omega⟩
      rw [pieces, piecesFrom, h]
      simp only [Nat.add_sub_cancel, piecesFrom_eq, List.take_succ_cons, List.drop_succ_cons]

/-- A text that is a match from its start to its end. -/
theorem pieces_of_whole {t : Text} {a : α} (h : recognise t = some (a, t.length)) (ht : t ≠ []) :
    pieces recognise t = [.hit a t] := by
  rw [pieces_of_some h (List.length_pos_iff.mpr ht) (Nat.le_refl _), List.take_length,
    List.drop_length]
  rfl

/-- Induction along a scan: over a character that starts no match, and over a match. -/
@[elab_as_elim]
theorem Exact.induction (hex : Exact recognise) {motive : Text → Prop} (nil : motive [])
    (plain : ∀ c cs, recognise (c :: cs) = none → motive cs → motive (c :: cs))
    (hit : ∀ t a n, recognise t = some (a, n) → motive (t.drop n) → motive t) (t : Text) :
    motive t := by
  induction h : t.length using Nat.strongRecOn generalizing t with
  | ind k ih =>
    cases t with
    | nil => exact nil
    | cons c cs =>
        cases hrec : recognise (c :: cs) with
        | none => exact plain c cs hrec (ih cs.length (by simp at h; omega) cs rfl)
        | some found =>
            obtain ⟨a, n⟩ := found
            have hn := hex _ _ _ hrec
            exact hit _ a n hrec (ih _ (by rw [List.length_drop]; omega) _ rfl)

/-! ## Where a scan falls apart -/

/-- Scanning loses nothing. -/
theorem spell_pieces (hex : Exact recognise) (t : Text) : spell (pieces recognise t) = t := by
  induction t using hex.induction with
  | nil => rfl
  | plain c cs h ih => rw [pieces_of_none h, spell_cons, ih]; rfl
  | hit t a n h ih =>
      obtain ⟨hpos, hle⟩ := hex _ _ _ h
      rw [pieces_of_some h hpos hle, spell_cons, ih]
      exact List.take_append_drop n t

/-- A match is what the recogniser finds at some place of the text. -/
theorem exists_of_hit_mem_pieces (hex : Exact recognise) {t : Text} {a : α} {raw : Text}
    (h : .hit a raw ∈ pieces recognise t) :
    ∃ rest, raw ++ rest <:+ t ∧ recognise (raw ++ rest) = some (a, raw.length) := by
  induction t using hex.induction with
  | nil => exact absurd h (by simp)
  | plain c cs hnone ih =>
      rw [pieces_of_none hnone, List.mem_cons] at h
      obtain ⟨rest, hsuffix, hrec⟩ := ih (h.resolve_left (by simp))
      exact ⟨rest, hsuffix.trans (List.suffix_cons c cs), hrec⟩
  | hit t b n hsome ih =>
      obtain ⟨hpos, hle⟩ := hex _ _ _ hsome
      rw [pieces_of_some hsome hpos hle, List.mem_cons] at h
      rcases h with h | h
      · obtain ⟨rfl, rfl⟩ := Piece.hit.inj h
        refine ⟨t.drop n, ⟨[], List.take_append_drop n t⟩, ?_⟩
        rw [List.take_append_drop, List.length_take, Nat.min_eq_left hle, hsome]
      · obtain ⟨rest, hsuffix, hrec⟩ := ih h
        exact ⟨rest, hsuffix.trans (List.drop_suffix n t), hrec⟩

/-- Behind any of its pieces the scan starts afresh. -/
theorem pieces_of_eq_append (hex : Exact recognise) {t : Text} (ps : List (Piece α))
    {qs : List (Piece α)} (h : pieces recognise t = ps ++ qs) :
    pieces recognise (spell qs) = qs := by
  induction ps generalizing t with
  | nil => rw [List.nil_append] at h; rw [← h, spell_pieces hex]
  | cons p ps ih =>
      cases t with
      | nil => exact absurd h (by simp)
      | cons c cs =>
          cases hrec : recognise (c :: cs) with
          | none =>
              rw [pieces_of_none hrec, List.cons_append] at h
              exact ih (List.cons.inj h).2
          | some found =>
              obtain ⟨a, n⟩ := found
              obtain ⟨hpos, hle⟩ := hex _ _ _ hrec
              rw [pieces_of_some hrec hpos hle, List.cons_append] at h
              exact ih (List.cons.inj h).2

/-- **A scan falls apart at every place that no match straddles.** -/
theorem exists_pieces_eq_append (hex : Exact recognise) {t : Text} {n : Nat} (hn : n ≤ t.length)
    (hno : ∀ before a raw after, pieces recognise t = before ++ .hit a raw :: after →
      (spell before).length + raw.length ≤ n ∨ n ≤ (spell before).length) :
    ∃ ps, spell ps = t.take n ∧ pieces recognise t = ps ++ pieces recognise (t.drop n) := by
  induction t using hex.induction generalizing n with
  | nil => exact ⟨[], by simp, by simp⟩
  | plain c cs h ih =>
      cases n with
      | zero => exact ⟨[], by simp, by simp⟩
      | succ n =>
          obtain ⟨ps, hps, heq⟩ := ih (n := n) (by simpa using hn) (by
            intro before a raw after hb
            have := hno (.plain c :: before) a raw after (by rw [pieces_of_none h, hb]; rfl)
            simp only [spell_cons, Piece.text, List.length_append, List.length_singleton] at this
            omega)
          refine ⟨.plain c :: ps, by simp [hps, Piece.text], ?_⟩
          rw [pieces_of_none h, heq]
          rfl
  | hit t a k h ih =>
      obtain ⟨hpos, hle⟩ := hex _ _ _ h
      have hpieces := pieces_of_some h hpos hle
      cases n with
      | zero => exact ⟨[], by simp, by simp⟩
      | succ n =>
          -- the match starts before the place, so it ends before it
          have hkn : k ≤ n + 1 := by
            have := hno [] a (t.take k) _ hpieces
            simp only [spell_nil, List.length_nil, List.length_take] at this
            omega
          obtain ⟨ps, hps, heq⟩ := ih (n := n + 1 - k) (by rw [List.length_drop]; omega) (by
            intro before b raw after hb
            have := hno (.hit a (t.take k) :: before) b raw after (by rw [hpieces, hb]; rfl)
            simp only [spell_cons, Piece.text, List.length_append, List.length_take] at this
            omega)
          refine ⟨.hit a (t.take k) :: ps, ?_, ?_⟩
          · rw [spell_cons, hps]
            simp only [Piece.text]
            rw [← List.take_add, Nat.add_sub_cancel' hkn]
          · rw [hpieces, heq, List.drop_drop, Nat.add_sub_cancel' hkn]
            rfl

/-! ## The offsets of the matches -/

theorem hitsFrom_append (offset : Nat) (ps qs : List (Piece α)) :
    hitsFrom offset (ps ++ qs) =
      hitsFrom offset ps ++ hitsFrom (offset + (spell ps).length) qs := by
  induction ps generalizing offset with
  | nil => rfl
  | cons p ps ih =>
      cases p with
      | plain c =>
          rw [List.cons_append, hitsFrom, hitsFrom, ih, spell_cons, List.length_append,
            Nat.add_assoc]
          rfl
      | hit a raw =>
          rw [List.cons_append, hitsFrom, hitsFrom, ih, spell_cons, List.length_append,
            Nat.add_assoc]
          rfl

/-- Scanning further on moves the matches and nothing else. -/
theorem hitsFrom_add (offset shift : Nat) (ps : List (Piece α)) :
    hitsFrom (offset + shift) ps =
      (hitsFrom offset ps).map fun (start, a) => (start + shift, a) := by
  induction ps generalizing offset with
  | nil => rfl
  | cons p ps ih =>
      cases p with
      | plain c =>
          rw [hitsFrom, hitsFrom, ← ih, Nat.add_right_comm]
      | hit a raw =>
          rw [hitsFrom, hitsFrom, List.map_cons, ← ih, Nat.add_right_comm]

/-- What the matches are does not depend on where the text starts. -/
theorem map_snd_hitsFrom (offset : Nat) (ps : List (Piece α)) :
    (hitsFrom offset ps).map Prod.snd = (hitsFrom 0 ps).map Prod.snd := by
  rw [← Nat.zero_add offset, hitsFrom_add, List.map_map]
  rfl

theorem found_eq_append (offset : Nat) {t u : Text} {ps : List (Piece α)}
    (h : pieces recognise t = ps ++ pieces recognise u) :
    found recognise t = (hitsFrom offset ps).map Prod.snd ++ found recognise u := by
  rw [found, found, hits, hits, h, hitsFrom_append, List.map_append, map_snd_hitsFrom offset,
    map_snd_hitsFrom (0 + _)]

theorem mem_hitsFrom_iff {offset i : Nat} {a : α} {ps : List (Piece α)} :
    (i, a) ∈ hitsFrom offset ps ↔
      ∃ before raw after, ps = before ++ .hit a raw :: after ∧
        i = offset + (spell before).length := by
  induction ps generalizing offset with
  | nil => simp [hitsFrom]
  | cons p ps ih =>
      cases p with
      | plain c =>
          rw [hitsFrom, ih]
          constructor
          · rintro ⟨before, raw, after, rfl, rfl⟩
            exact ⟨.plain c :: before, raw, after, rfl, by simp [Piece.text]; omega⟩
          · rintro ⟨before, raw, after, h, rfl⟩
            cases before with
            | nil => exact absurd (List.cons.inj h).1 (by simp)
            | cons q before =>
                obtain ⟨rfl, rfl⟩ := List.cons.inj h
                exact ⟨before, raw, after, rfl, by simp [Piece.text]; omega⟩
      | hit b raw' =>
          rw [hitsFrom, List.mem_cons, ih]
          constructor
          · rintro (h | ⟨before, raw, after, rfl, rfl⟩)
            · obtain ⟨rfl, rfl⟩ := Prod.mk.inj h
              exact ⟨[], raw', ps, rfl, rfl⟩
            · exact ⟨.hit b raw' :: before, raw, after, rfl, by simp [Piece.text]; omega⟩
          · rintro ⟨before, raw, after, h, rfl⟩
            cases before with
            | nil =>
                obtain ⟨hhit, rfl⟩ := List.cons.inj h
                obtain ⟨rfl, rfl⟩ := Piece.hit.inj hhit
                exact Or.inl rfl
            | cons q before =>
                obtain ⟨rfl, rfl⟩ := List.cons.inj h
                exact Or.inr ⟨before, raw, after, rfl, by simp [Piece.text]; omega⟩

/-- The pieces of a stretch without matches are its characters. -/
theorem eq_map_plain_of_hitsFrom_eq_nil {offset : Nat} {ps : List (Piece α)}
    (h : hitsFrom offset ps = []) : ps = (spell ps).map .plain := by
  induction ps generalizing offset with
  | nil => rfl
  | cons p ps ih =>
      cases p with
      | plain c =>
          rw [hitsFrom] at h
          rw [spell_cons, List.map_append, ← ih h]
          rfl
      | hit a raw => exact absurd h (by simp [hitsFrom])

@[simp] theorem hitsFrom_map_plain (offset : Nat) (t : Text) :
    hitsFrom offset (t.map (.plain : Char → Piece α)) = [] := by
  induction t generalizing offset with
  | nil => rfl
  | cons c cs ih => rw [List.map_cons, hitsFrom, ih]

@[simp] theorem spell_map_plain (t : Text) : spell (t.map (.plain : Char → Piece α)) = t := by
  induction t with
  | nil => rfl
  | cons c cs ih => rw [List.map_cons, spell_cons, ih]; rfl

end LabelTemplate.Scan
