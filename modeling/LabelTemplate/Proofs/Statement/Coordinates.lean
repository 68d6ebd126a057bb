import LabelTemplate.Proofs.Statement.Rewording

/-!
# A statement with other coordinates

The opener of a statement and its coordinates are one command, `front`. With other coordinates the
document has another command of the same opener in its place, and that is all. What starts before
the command cannot end within it: it is over before it, or it goes over all of it, in its middle or
in its value (`exists_of_match?_append_front`). At the command itself the recogniser gives the same
answers with the new coordinates (`match?_front`), and behind it stands the same text. So the
matches of each scan correspond one to one (`forall₂_hits_front`), and a value that the command
stands in is the only one that changes.
-/

namespace LabelTemplate.Statement

open Text Command Scan

/-- The second value is the first, or the first with the one front in the place of the other. -/
def FrontExchanged (s s' : Statement) (v v' : Text) : Prop :=
  ∃ before after, v = before ++ (s.front ++ after) ∧ v' = before ++ (s'.front ++ after)

/--
What a match of a document becomes if at `place` the front of one statement is exchanged for that
of another. The matches have their offsets with them.
-/
structure Reseated (s s' : Statement) (place : Nat) (a a' : Nat × Statement) : Prop where
  /-- The kind stays. -/
  kind : a'.2.kind = a.2.kind
  /-- At the place the new coordinates are read. -/
  here : a.1 = place → a'.2.x = s'.x ∧ a'.2.y = s'.y
  /-- Elsewhere the coordinates stay. -/
  elsewhere : a.1 ≠ place → a'.2.x = a.2.x ∧ a'.2.y = a.2.y
  /-- The value stays, unless the match goes over the place and has the front in its value. -/
  value : a'.2.value = a.2.value ∨
    a.1 < place ∧ place < a.1 + a.2.length ∧ FrontExchanged s s' a.2.value a'.2.value

section

variable {s s' : Statement} {z : Text} {kind : FieldKind}

/-! ## At the place -/

theorem front_append (s : Statement) (z : Text) :
    s.front ++ z = s.kind.opener ++ (s.x ++ ',' :: (s.y ++ z)) := by
  simp [front, coordinates]

/-- Behind the front of a statement the recogniser looks for a middle and a value. -/
theorem match?_front (hs : s.Valid) (hz : ∀ c ∈ z.head?, isCoordinate c = false)
    (kind : FieldKind) :
    match? kind (s.front ++ z) =
      if kind.opener = s.kind.opener then
        (middleAndValue? kind z).map fun (middle, value) =>
          { kind := kind, x := s.x, y := s.y, middle := middle, value := value }
      else none := by
  unfold match?
  split
  · rename_i hopener
    have hcoordinates := coordinates?_eq_some_iff.mpr ⟨rfl, hs.x, hs.y, hz⟩
    rw [front_append, hopener, after?_eq_some_iff.mpr rfl]
    simp only [Option.bind_eq_bind, Option.bind_some, hcoordinates]
    cases middleAndValue? kind z <;> rfl
  · rename_i hopener
    have hno : ¬ kind.opener <+: s.front ++ z := fun hpre =>
      hopener (hs.headed_front.eq_of_prefix (headed_opener kind).three hpre)
    rw [after?_eq_none_iff.mpr hno]
    rfl

/-- **Behind the fronts of two statements of a kind the recogniser gives the same answers.** -/
theorem match?_front_eq_map (hs : s.Valid) (hs' : s'.Valid) (hkind : s'.kind = s.kind)
    (hz : ∀ c ∈ z.head?, isCoordinate c = false) (kind : FieldKind) :
    match? kind (s'.front ++ z) =
      (match? kind (s.front ++ z)).map fun t => { t with x := s'.x, y := s'.y } := by
  rw [match?_front hs hz, match?_front hs' hz, hkind]
  split
  · rw [Option.map_map]
    rfl
  · rfl

/-! ## Before the place -/

/--
What is followed by a command of another opener cannot end within the front: it has all of it.
-/
theorem Valid.exists_eq_front_append (hs : s.Valid) {word p m r : Text} (hp : Headed word p)
    (hword : word ≠ s.kind.opener) (h : m ++ (p ++ r) <+: s.front ++ z) :
    ∃ m', m = s.front ++ m' := by
  have hm : m <+: s.front ++ z := (List.prefix_append m _).trans h
  rcases List.prefix_or_prefix_of_prefix (List.prefix_append s.front z) hm with ⟨m', rfl⟩ | ⟨q, hq⟩
  · exact ⟨m', rfl⟩
  · rw [← hq, List.append_assoc, List.prefix_append_right_inj] at h
    have hopener := hs.headed_front
    cases m with
    | nil =>
        -- the front would begin with the other command
        rw [← List.nil_append q, hq] at h
        exact absurd (hopener.eq_of_prefix hp.three
          (hp.begins.trans ((List.prefix_append p r).trans h))) hword
    | cons c m =>
        cases q with
        | nil => exact ⟨[], by simpa using hq⟩
        | cons d q =>
            -- the caret of the other command would be a second one in the front
            obtain ⟨w, hw⟩ := hp.isCommand.atCaret r
            rw [hw, List.cons_append, List.cons_prefix_cons] at h
            exact absurd (h.1 ▸ List.mem_cons_self)
              (hopener.isCommand.not_mem_of_append hq.symm (by simp))

/-- The search goes on over a front. -/
theorem Valid.free_front_append (hs : s.Valid) {m : Text} (hm : Free kind m) :
    Free kind (s.front ++ m) := by
  refine hs.headed_front.free_append ?_ hm
  cases kind <;> cases s.kind <;> decide

theorem Valid.infix_fieldEnd_front_iff (hs : s.Valid) {v w : Text} :
    fieldEnd <:+: v ++ (s.front ++ w) ↔ fieldEnd <:+: v ∨ fieldEnd <:+: w := by
  rw [isCommand_fieldEnd.infix_append_iff (hs.isCommand_front.atCaret w),
    isCommand_fieldEnd.infix_command_append_iff hs.isCommand_front]
  intro hpre
  have := hs.headed_front.eq_of_prefix rfl hpre
  cases hkind : s.kind <;> rw [hkind] at this <;> exact absurd this (by decide)

/--
**A statement that starts before a front is over before it or goes over all of it.**

In the second case it is a statement with the other front too, with the same coordinates.
-/
theorem exists_of_match?_append_front (hs : s.Valid) (hs' : s'.Valid) {u : Text} (hu : u ≠ [])
    {t : Statement} (h : match? kind (u ++ (s.front ++ z)) = some t) :
    t.text <+: u ∨ ∃ (w : Text) (t' : Statement), t.text = u ++ (s.front ++ w) ∧ w <+: z ∧
      t'.kind = t.kind ∧ t'.Valid ∧ t'.text = u ++ (s'.front ++ w) ∧ t'.x = t.x ∧ t'.y = t.y ∧
      (t'.value = t.value ∨ FrontExchanged s s' t.value t'.value) := by
  obtain ⟨rfl, ht, hpre⟩ := match?_eq_some_iff.mp h
  rcases List.prefix_or_prefix_of_prefix hpre (List.prefix_append u _) with hin | ⟨q, hq⟩
  · exact Or.inl hin
  · by_cases hnil : q = []
    · rw [hnil, List.append_nil] at hq
      exact Or.inl (hq ▸ List.prefix_refl _)
    · rw [← hq, List.prefix_append_right_inj] at hpre
      have hcaret : AtCaret q := AtCaret.of_prefix (hs.isCommand_front.atCaret z) hpre hnil
      have hopener : t.kind.dataCommand ≠ s.kind.opener := by
        cases t.kind <;> cases s.kind <;> decide
      have hend : fieldEnd ≠ s.kind.opener := by cases s.kind <;> decide
      refine Or.inr ?_
      rcases ht.cut_cases hq.symm hu hcaret fun lead hl hlq =>
          hs.headed_front.eq_nil_of_isLead (opener_not_mem_leads s.kind) hl (hlq.trans hpre)
        with ⟨lead, m, m', rfl, hmiddle, hlead, hfree, rfl⟩ | ⟨hkind, v, v', rfl, hvalue, rfl⟩
      · -- the front is in the middle
        obtain ⟨n, rfl⟩ := hs.exists_eq_front_append (headed_dataCommand t.kind) hopener hpre
        rw [List.append_assoc, List.prefix_append_right_inj] at hpre
        have hn : Free t.kind n := hfree.of_infix
          ((List.suffix_append s.front n).trans (List.suffix_append m _)).isInfix
        refine ⟨_, { t with middle := lead ++ (m ++ (s'.front ++ n)) }, ?_, hpre, rfl,
          ht.of_cut_middle hmiddle hlead hfree (Or.inr (hs'.isCommand_front.atCaret n))
            (hs'.free_front_append hn) ht.value, ?_, rfl, rfl, Or.inl rfl⟩
        · rw [← hq]
          simp
        · simp [text_eq_front, front, coordinates]
      · -- the front is in the value
        have hpre' : v' ++ (fieldEnd ++ []) <+: s.front ++ z := by simpa using hpre
        obtain ⟨n, rfl⟩ := hs.exists_eq_front_append headed_fieldEnd hend hpre'
        rw [List.append_assoc, List.prefix_append_right_inj] at hpre
        have hvalid : ValidValue t.kind (v ++ (s'.front ++ n)) := by
          have hold := (validValue_iff hkind).mp ht.value
          rw [hvalue, hs.infix_fieldEnd_front_iff] at hold
          rwa [validValue_iff hkind, hs'.infix_fieldEnd_front_iff]
        refine ⟨_, { t with value := v ++ (s'.front ++ n) }, ?_, hpre, rfl,
          ⟨ht.x, ht.y, ht.boundary, ht.middle, hvalid⟩, ?_, rfl, rfl,
          Or.inr ⟨v, n, hvalue, rfl⟩⟩
        · rw [← hq]
          simp
        · simp [text_eq_front, front, coordinates, closer_eq hkind]

/-- Whether a statement starts before the place does not depend on the coordinates there. -/
theorem isSome_match?_append_front (hs : s.Valid) (hs' : s'.Valid) {u : Text} (hu : u ≠ []) :
    (match? kind (u ++ (s'.front ++ z))).isSome = (match? kind (u ++ (s.front ++ z))).isSome := by
  have key : ∀ {s s' : Statement}, s.Valid → s'.Valid →
      (match? kind (u ++ (s.front ++ z))).isSome = true →
        (match? kind (u ++ (s'.front ++ z))).isSome = true := by
    intro s s' hs hs' hsome
    obtain ⟨t, h⟩ := Option.isSome_iff_exists.mp hsome
    obtain ⟨hkind, ht, -⟩ := match?_eq_some_iff.mp h
    rcases exists_of_match?_append_front hs hs' hu h with
      hin | ⟨w, t', -, ⟨rest, rfl⟩, hkind', ht', htext, -⟩
    · exact Option.isSome_iff_exists.mpr
        ⟨t, match?_eq_some_iff.mpr ⟨hkind, ht, hin.trans (List.prefix_append u _)⟩⟩
    · refine Option.isSome_iff_exists.mpr
        ⟨t', match?_eq_some_iff.mpr ⟨hkind'.trans hkind, ht', rest, ?_⟩⟩
      rw [htext]
      simp
  exact Bool.eq_iff_iff.mpr ⟨key hs' hs, key hs hs'⟩

/-! ## The matches of a scan -/

/-- Behind the place the matches are the same. -/
theorem forall₂_hitsFrom_behind {place n : Nat} (hn : place < n) (n' : Nat)
    (ps : List (Piece Statement)) :
    List.Forall₂ (Reseated s s' place) (hitsFrom n ps) (hitsFrom n' ps) := by
  induction ps generalizing n n' with
  | nil => exact .nil
  | cons p ps ih =>
      cases p with
      | plain c => exact ih (by omega) _
      | hit t raw =>
          refine .cons ⟨rfl, fun heq => ?_, fun _ => ⟨rfl, rfl⟩, .inl rfl⟩ (ih (by omega) _)
          have : n = place := heq
          omega

theorem pieces_front_append_of_none (hs : s.Valid) (h : match? kind (s.front ++ z) = none) :
    pieces (recognise kind) (s.front ++ z) =
      s.front.map .plain ++ pieces (recognise kind) z := by
  obtain ⟨name, hfront, hname⟩ := hs.isCommand_front
  rw [hfront, List.cons_append] at h ⊢
  rw [pieces_of_none (recognise_eq_none_iff.mpr h), unmatched_of_not_mem hname]
  rfl

/-- A statement at a front has its opener and its coordinates. -/
theorem opener_coordinates_of_match?_front (hs : s.Valid)
    (hz : ∀ c ∈ z.head?, isCoordinate c = false) {t : Statement}
    (h : match? kind (s.front ++ z) = some t) :
    t.kind.opener = s.kind.opener ∧ t.x = s.x ∧ t.y = s.y := by
  rw [match?_front hs hz] at h
  split at h
  · rename_i hopener
    obtain ⟨_, -, rfl⟩ := Option.map_eq_some_iff.mp h
    exact ⟨hopener, rfl, rfl⟩
  · exact absurd h (by simp)

theorem front_eq_of_match?_front (hs : s.Valid) (hz : ∀ c ∈ z.head?, isCoordinate c = false)
    {t : Statement} (h : match? kind (s.front ++ z) = some t) : t.front = s.front := by
  obtain ⟨hopener, hx, hy⟩ := opener_coordinates_of_match?_front hs hz h
  rw [front, front, coordinates, coordinates, hopener, hx, hy]

theorem hitsFrom_of_match? {t : Statement} {rest : Text} (n : Nat)
    (h : match? kind (t.text ++ rest) = some t) :
    hitsFrom n (pieces (recognise kind) (t.text ++ rest)) =
      (n, t) :: hitsFrom (n + t.text.length) (pieces (recognise kind) rest) := by
  obtain ⟨rfl, ht, -⟩ := match?_eq_some_iff.mp h
  rw [ht.pieces_append, hitsFrom]

/-- At the place a match becomes one with the new coordinates, if there is one. -/
theorem forall₂_hitsFrom_here (hs : s.Valid) (hs' : s'.Valid) (hkind : s'.kind = s.kind)
    (hz : ∀ c ∈ z.head?, isCoordinate c = false) (place n' : Nat) :
    List.Forall₂ (Reseated s s' place)
      (hitsFrom place (pieces (recognise kind) (s.front ++ z)))
      (hitsFrom n' (pieces (recognise kind) (s'.front ++ z))) := by
  have hmap := match?_front_eq_map hs hs' hkind hz kind
  cases hmatch : match? kind (s.front ++ z) with
  | none =>
      have hpos : 0 < s.front.length := List.length_pos_iff.mpr hs.isCommand_front.ne_nil
      rw [hmatch, Option.map_none] at hmap
      rw [pieces_front_append_of_none hs hmatch, pieces_front_append_of_none hs' hmap,
        hitsFrom_append, hitsFrom_append, hitsFrom_map_plain, hitsFrom_map_plain,
        spell_map_plain, spell_map_plain]
      exact forall₂_hitsFrom_behind (by omega) _ _
  | some t =>
      rw [hmatch, Option.map_some] at hmap
      have hfront := front_eq_of_match?_front hs hz hmatch
      have hfront' := front_eq_of_match?_front hs' hz hmap
      obtain ⟨-, ht, rest, hrest⟩ := match?_eq_some_iff.mp hmatch
      rw [text_eq_front, hfront, List.append_assoc, List.append_cancel_left_eq] at hrest
      have htext : s.front ++ z = t.text ++ rest := by
        rw [text_eq_front, hfront, ← hrest]
        simp
      have htext' : s'.front ++ z = ({ t with x := s'.x, y := s'.y } : Statement).text ++ rest := by
        rw [text_eq_front, hfront', ← hrest]
        simp
      rw [htext] at hmatch ⊢
      rw [htext'] at hmap ⊢
      rw [hitsFrom_of_match? place hmatch, hitsFrom_of_match? n' hmap]
      have hpos : 0 < t.text.length := t.length_text ▸ t.length_pos
      exact .cons ⟨rfl, fun _ => ⟨rfl, rfl⟩, fun hne => absurd rfl hne, .inl rfl⟩
        (forall₂_hitsFrom_behind (by omega) _ _)

/-- A match that goes over the place becomes one that does, and then the same text follows. -/
theorem forall₂_hitsFrom_across (hs : s.Valid) {u w rest : Text} (hu : u ≠ []) {t t' : Statement}
    (hmatch : match? kind (u ++ (s.front ++ (w ++ rest))) = some t)
    (htext : t.text = u ++ (s.front ++ w))
    (hbecomes : t'.kind = t.kind ∧ t'.Valid ∧ t'.text = u ++ (s'.front ++ w) ∧ t'.x = t.x ∧
      t'.y = t.y ∧ (t'.value = t.value ∨ FrontExchanged s s' t.value t'.value)) (n n' : Nat) :
    List.Forall₂ (Reseated s s' (n + u.length))
      (hitsFrom n (pieces (recognise kind) (u ++ (s.front ++ (w ++ rest)))))
      (hitsFrom n' (pieces (recognise kind) (u ++ (s'.front ++ (w ++ rest))))) := by
  obtain ⟨hkind, ht', htext', hx, hy, hvalue⟩ := hbecomes
  have hold : u ++ (s.front ++ (w ++ rest)) = t.text ++ rest := by
    rw [htext]
    simp
  have hnew : u ++ (s'.front ++ (w ++ rest)) = t'.text ++ rest := by
    rw [htext']
    simp
  have hmatch' : match? kind (t'.text ++ rest) = some t' := match?_eq_some_iff.mpr
    ⟨hkind.trans (match?_eq_some_iff.mp hmatch).1, ht', List.prefix_append _ rest⟩
  rw [hold] at hmatch ⊢
  rw [hnew, hitsFrom_of_match? n hmatch, hitsFrom_of_match? n' hmatch']
  have hlength := congrArg List.length htext
  rw [List.length_append, List.length_append] at hlength
  have hupos : 0 < u.length := List.length_pos_iff.mpr hu
  have hpos : 0 < s.front.length := List.length_pos_iff.mpr hs.isCommand_front.ne_nil
  refine .cons ⟨hkind, fun heq => ?_, fun _ => ⟨hx, hy⟩, hvalue.imp_right fun hv => ?_⟩
    (forall₂_hitsFrom_behind (by omega) _ _)
  · have : n = n + u.length := heq
    omega
  · refine ⟨Nat.lt_add_of_pos_right hupos, ?_, hv⟩
    show n + u.length < n + t.length
    rw [← t.length_text]
    omega

/--
**With other coordinates at one place the matches of a scan correspond one to one.**

The induction is along the text before the place. A match there is over before the place or goes
over it, and then what follows is the same text.
-/
theorem forall₂_hitsFrom_front (hs : s.Valid) (hs' : s'.Valid) (hkind : s'.kind = s.kind)
    (hz : ∀ c ∈ z.head?, isCoordinate c = false) (n n' : Nat) (u : Text) :
    List.Forall₂ (Reseated s s' (n + u.length))
      (hitsFrom n (pieces (recognise kind) (u ++ (s.front ++ z))))
      (hitsFrom n' (pieces (recognise kind) (u ++ (s'.front ++ z)))) := by
  induction h : u.length using Nat.strongRecOn generalizing u n n' with
  | ind k ih =>
  cases u with
  | nil =>
      obtain rfl : 0 = k := h
      exact forall₂_hitsFrom_here hs hs' hkind hz n n'
  | cons c u =>
      subst h
      have hne : c :: u ≠ [] := List.cons_ne_nil c u
      cases hmatch : match? kind (c :: u ++ (s.front ++ z)) with
      | none =>
          have hmatch' : match? kind (c :: u ++ (s'.front ++ z)) = none := by
            have hsome := (isSome_match?_append_front hs hs' hne).trans
              (congrArg Option.isSome hmatch)
            simpa using hsome
          rw [List.cons_append] at hmatch hmatch' ⊢
          rw [List.cons_append, pieces_of_none (recognise_eq_none_iff.mpr hmatch),
            pieces_of_none (recognise_eq_none_iff.mpr hmatch'), hitsFrom, hitsFrom,
            List.length_cons, Nat.add_comm u.length 1, ← Nat.add_assoc]
          exact ih u.length (by simp) (n + 1) (n' + 1) u rfl
      | some t =>
          obtain ⟨htkind, ht, -⟩ := match?_eq_some_iff.mp hmatch
          have hpos : 0 < t.text.length := t.length_text ▸ t.length_pos
          rcases exists_of_match?_append_front hs hs' hne hmatch with
            ⟨u', hu'⟩ | ⟨w, t', htext, ⟨rest, rfl⟩, hbecomes⟩
          · -- the match is over before the place
            have hlength := congrArg List.length hu'
            rw [List.length_append] at hlength
            rw [← hu', List.append_assoc, List.append_assoc, ← htkind, ht.pieces_append,
              ht.pieces_append, hitsFrom, hitsFrom, List.length_append, ← Nat.add_assoc]
            have hrest := ih u'.length (by omega) (n + t.text.length) (n' + t.text.length) u' rfl
            rw [htkind]
            refine .cons ⟨rfl, fun heq => ?_, fun _ => ⟨rfl, rfl⟩, .inl rfl⟩ hrest
            have : n = n + t.text.length + u'.length := heq
            omega
          · exact forall₂_hitsFrom_across hs hne hmatch htext hbecomes n n'

end

end LabelTemplate.Statement
