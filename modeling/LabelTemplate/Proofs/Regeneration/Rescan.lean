import LabelTemplate.Proofs.Regeneration.Splice
import LabelTemplate.Proofs.Statement.Rewording

/-!
# Scanning a regenerated document

The three scans are run over one and the same splice, and for each of them a record that
is written again is one of two things: a match of its own, which becomes another
valid statement of the kind, or text in which it matches nothing before and nothing
afterwards. `Follows` collects what has to be known about each record, and
`scan_of_splices` goes along the splice from its end: the rest of the document is
replaceable by the new rest, so everything in front of it is scanned as it was.
-/

namespace LabelTemplate.Regeneration

open Scan Statement

/--
How the matches of the scan for a kind stand to the records that are written again.
`after` says what becomes of a match at a place.
-/
structure Follows (kind : FieldKind) (write : Record → Text) (after : Nat → Statement → Statement)
    (rs : List Record) (matched : List (Nat × Statement)) : Prop where
  /-- A match that has a character in common with a record is the record's own statement. -/
  own : ∀ r ∈ rs, ∀ i s, (i, s) ∈ matched → i < r.stop → r.start < i + s.length →
    i = r.start ∧ s.text = r.statement.text ∧ (after i s).kind = kind ∧ (after i s).Valid ∧
      write r = (after i s).text
  /-- A record at which nothing is matched is written again without a match. -/
  quiet : ∀ r ∈ rs, (∀ s, (r.start, s) ∉ matched) → ∃ front old new,
    r.statement.text = front ++ old ∧ write r = front ++ new ∧ Quiet kind old new
  /-- Other matches stay as they are. -/
  other : ∀ i s, (i, s) ∈ matched → (∀ r ∈ rs, i ≠ r.start) → after i s = s

/-- Fewer records and fewer matches, as long as they still belong together. -/
theorem Follows.mono {kind : FieldKind} {write : Record → Text}
    {after : Nat → Statement → Statement} {rs rs' : List Record}
    {matched matched' : List (Nat × Statement)} (h : Follows kind write after rs matched)
    (hrs : rs' ⊆ rs) (hmatched : matched' ⊆ matched)
    (hstarts : ∀ r ∈ rs', ∀ s, (r.start, s) ∈ matched → (r.start, s) ∈ matched')
    (hothers : ∀ i s, (i, s) ∈ matched' → ∀ r ∈ rs, i = r.start → r ∈ rs') :
    Follows kind write after rs' matched' where
  own r hr i s hmem := h.own r (hrs hr) i s (hmatched hmem)
  quiet r hr hno := h.quiet r (hrs hr) fun s hmem => hno s (hstarts r hr s hmem)
  other i s hmem hno := h.other i s (hmatched hmem) fun r hr heq =>
    hno r (hothers i s hmem r hr heq) heq

theorem Splices.offset_le {write : Record → Text} {offset : Nat} {t out : Text} {rs : List Record}
    (h : Splices write offset t rs out) : ∀ r ∈ rs, offset ≤ r.start := by
  induction h with
  | done => exact fun r hr => absurd hr (by simp)
  | @next offset gap rest out r rs hstart _ ih =>
      intro s hs
      rcases List.mem_cons.mp hs with rfl | hs
      · omega
      · have := ih s hs
        have := r.start_lt_stop
        omega

/-- What is found at a record, when it is known what is found behind it. -/
theorem scan_of_next {kind : FieldKind} {write : Record → Text}
    {after : Nat → Statement → Statement} {r : Record} {rs : List Record} {rest out : Text}
    (hrs : ∀ r' ∈ rs, r.stop ≤ r'.start)
    (hfollows : Follows kind write after (r :: rs)
      (hitsFrom r.start (pieces (recognise kind) (r.statement.text ++ rest))))
    (hrest : Follows kind write after rs (hitsFrom r.stop (pieces (recognise kind) rest)) →
      Replaceable kind rest out ∧ found (recognise kind) out =
        (hitsFrom r.stop (pieces (recognise kind) rest)).map fun x => after x.1 x.2) :
    Replaceable kind (r.statement.text ++ rest) (write r ++ out) ∧
      found (recognise kind) (write r ++ out) =
        (hitsFrom r.start (pieces (recognise kind) (r.statement.text ++ rest))).map
          fun x => after x.1 x.2 := by
  have hpos := r.start_lt_stop
  have hstop : r.stop = r.start + r.statement.text.length := by rw [Record.stop, length_text]
  have hbehind : ∀ i s, (i, s) ∈ hitsFrom r.stop (pieces (recognise kind) rest) → r.stop ≤ i :=
    fun i s hmem => ((scanned_pieces kind rest).of_mem_hitsFrom hmem).2.2.1
  by_cases hmatched : ∃ s, (r.start, s) ∈
      hitsFrom r.start (pieces (recognise kind) (r.statement.text ++ rest))
  · -- the record is a match of this scan: another valid statement takes its place
    obtain ⟨s, hmem⟩ := hmatched
    obtain ⟨rfl, hs, _⟩ := (scanned_pieces kind _).of_mem_hitsFrom hmem
    obtain ⟨_, htext, hkind, hvalid, hwrite⟩ := hfollows.own r List.mem_cons_self r.start s hmem
      hpos (by have := s.length_pos; omega)
    rw [← htext] at hstop hfollows ⊢
    rw [hs.pieces_append, hitsFrom, ← hstop] at hfollows ⊢
    obtain ⟨hreplaceable, hfound⟩ := hrest <| hfollows.mono (List.subset_cons_self r rs)
      (List.subset_cons_self _ _)
      (fun r' hr' s' hmem' => by
        rcases List.mem_cons.mp hmem' with heq | hmem'
        · have := hrs r' hr'
          have := (Prod.mk.inj heq).1
          omega
        · exact hmem')
      fun i s' hmem' r' hr' heq => by
        rcases List.mem_cons.mp hr' with rfl | hr'
        · have := hbehind i s' hmem'
          omega
        · exact hr'
    obtain ⟨hreplace, hpieces⟩ := hs.replace hvalid hkind rest out
    rw [hwrite]
    refine ⟨hreplace, ?_⟩
    rw [found, hits, hpieces, hitsFrom, List.map_cons, List.map_cons, map_snd_hitsFrom, ← hfound]
    rfl
  · -- to this scan the record is text in which nothing is matched
    have hno : ∀ s, (r.start, s) ∉
        hitsFrom r.start (pieces (recognise kind) (r.statement.text ++ rest)) :=
      fun s hmem => hmatched ⟨s, hmem⟩
    have hplain : pieces (recognise kind) (r.statement.text ++ rest) =
        r.statement.text.map .plain ++ pieces (recognise kind) rest := by
      refine pieces_of_hitsFrom_behind r.start fun i s hmem => ?_
      by_contra hin
      have hle := ((scanned_pieces kind _).of_mem_hitsFrom hmem).2.2.1
      have := s.length_pos
      obtain ⟨rfl, _⟩ := hfollows.own r List.mem_cons_self i s hmem (by omega) (by omega)
      exact hno s hmem
    have hhits : hitsFrom r.start (pieces (recognise kind) (r.statement.text ++ rest)) =
        hitsFrom r.stop (pieces (recognise kind) rest) := by
      rw [hplain, hitsFrom_append, hitsFrom_map_plain, spell_map_plain, hstop, List.nil_append]
    rw [hhits] at hfollows ⊢
    obtain ⟨hreplaceable, hfound⟩ := hrest <| hfollows.mono (List.subset_cons_self r rs)
      (List.Subset.refl _) (fun _ _ _ hmem => hmem) fun i s hmem r' hr' heq => by
        rcases List.mem_cons.mp hr' with rfl | hr'
        · have := hbehind i s hmem
          omega
        · exact hr'
    obtain ⟨front, old, new, htext, hwrite, hquiet⟩ :=
      hfollows.quiet r List.mem_cons_self (hhits ▸ hno)
    rw [htext] at hplain ⊢
    rw [hwrite]
    obtain ⟨hreplace, hpieces⟩ := hquiet.pieces_append hreplaceable hplain
    refine ⟨hreplace, ?_⟩
    rw [found_eq_append 0 hpieces, hitsFrom_map_plain, hfound]
    rfl

/--
**A scan of a regenerated document finds what the scan of the document found.**

Each match is what `after` makes of the match at its place. That the new text is
replaceable by the old one is what carries the induction from a rest to what stands in
front of it.
-/
theorem scan_of_splices {kind : FieldKind} {write : Record → Text}
    {after : Nat → Statement → Statement} {offset : Nat} {t out : Text} {rs : List Record}
    (h : Splices write offset t rs out)
    (hfollows : Follows kind write after rs (hitsFrom offset (pieces (recognise kind) t))) :
    Replaceable kind t out ∧ found (recognise kind) out =
      (hitsFrom offset (pieces (recognise kind) t)).map fun x => after x.1 x.2 := by
  induction h with
  | done offset t =>
      refine ⟨.refl kind t, ?_⟩
      rw [found, hits, ← map_snd_hitsFrom offset]
      exact List.map_congr_left fun x hmem =>
        (hfollows.other x.1 x.2 hmem fun r hr => absurd hr (by simp)).symm
  | @next offset gap rest out r rs hstart hrest ih =>
      have hpos := r.start_lt_stop
      -- no match straddles the place where the record starts
      obtain ⟨ps, hps, hgap⟩ := exists_pieces_of_hitsFrom offset fun i s hmem => by
        by_contra hno
        have := (hfollows.own r List.mem_cons_self i s hmem (by omega) (by omega)).1
        omega
      have hhits : hitsFrom offset (pieces (recognise kind) (gap ++ (r.statement.text ++ rest))) =
          hitsFrom offset ps ++
            hitsFrom r.start (pieces (recognise kind) (r.statement.text ++ rest)) := by
        rw [hgap, hitsFrom_append, hps, hstart]
      rw [hhits] at hfollows ⊢
      have hscanned := scanned_pieces kind (gap ++ (r.statement.text ++ rest))
      rw [hgap] at hscanned
      have hbefore : ∀ i s, (i, s) ∈ hitsFrom offset ps → ∀ r' ∈ r :: rs, i < r'.start := by
        intro i s hmem r' hr'
        obtain ⟨_, _, _, hle⟩ := (hscanned.of_append_left _).of_mem_hitsFrom hmem
        have := s.length_pos
        rw [hps] at hle
        rcases List.mem_cons.mp hr' with rfl | hr'
        · omega
        · have := hrest.offset_le r' hr'
          omega
      have hnext := hfollows.mono (List.Subset.refl _) (List.subset_append_right _ _)
        (fun r' hr' s hmem => (List.mem_append.mp hmem).resolve_left fun hmem =>
          absurd (hbefore _ s hmem r' hr') (Nat.lt_irrefl _))
        fun _ _ _ _ hr' _ => hr'
      obtain ⟨hreplaceable, hfound⟩ := scan_of_next hrest.offset_le hnext ih
      refine ⟨hreplaceable.append_left gap, ?_⟩
      have hpieces := pieces_append_of_replaceable hreplaceable (hps.symm ▸ hgap)
      rw [hps] at hpieces
      rw [found_eq_append offset hpieces, hfound, List.map_append]
      congr 1
      exact List.map_congr_left fun x hmem => (hfollows.other x.1 x.2
        (List.mem_append_left _ hmem)
        fun r' hr' => Nat.ne_of_lt (hbefore x.1 x.2 hmem r' hr')).symm

end LabelTemplate.Regeneration
