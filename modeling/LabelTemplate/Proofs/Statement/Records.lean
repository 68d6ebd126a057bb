import LabelTemplate.Proofs.Scan.Rewriting
import LabelTemplate.Proofs.Statement.Grammar
import LabelTemplate.Statement.Record

/-!
# The records of a document

A record is a match of the scan with its number and its place. `recordsFrom` lists the
records that some pieces give when numbers and offsets start anywhere, so that the
records of a document can be taken apart where its pieces can.

What follows from the shape of a scan alone is proved here: the records of a kind
are valid statements that stand where they say, one behind the other, and their
numbers go up with them.
-/

namespace LabelTemplate

open Scan Statement

namespace Statement

theorem length_pos (s : Statement) : 0 < s.length := by
  rw [← length_text, text_eq]
  exact List.length_pos_iff.mpr (by simp [(isCommand_opener s.kind).ne_nil])

theorem recognise_eq_some_iff {kind : FieldKind} {t : Text} {s : Statement} {n : Nat} :
    recognise kind t = some (s, n) ↔
      s.kind = kind ∧ s.Valid ∧ s.text <+: t ∧ n = s.length := by
  unfold recognise
  rw [Option.map_eq_some_iff]
  constructor
  · rintro ⟨s', h, heq⟩
    obtain ⟨rfl, rfl⟩ := Prod.mk.inj heq
    obtain ⟨hkind, hs, hpre⟩ := match?_eq_some_iff.mp h
    exact ⟨hkind, hs, hpre, rfl⟩
  · rintro ⟨hkind, hs, hpre, rfl⟩
    exact ⟨s, match?_eq_some_iff.mpr ⟨hkind, hs, hpre⟩, rfl⟩

theorem recognise_eq_none_iff {kind : FieldKind} {t : Text} :
    recognise kind t = none ↔ match? kind t = none := Option.map_eq_none_iff

theorem exact_recognise (kind : FieldKind) : Exact (recognise kind) := by
  intro t s n h
  obtain ⟨_, _, hpre, rfl⟩ := recognise_eq_some_iff.mp h
  exact ⟨s.length_pos, s.length_text ▸ hpre.length_le⟩

/-- A valid statement at the beginning of a text is the first match of its scan. -/
theorem Valid.pieces_append {s : Statement} (hs : s.Valid) (rest : Text) :
    pieces (recognise s.kind) (s.text ++ rest) =
      .hit s s.text :: pieces (recognise s.kind) rest := by
  have hrec : recognise s.kind (s.text ++ rest) = some (s, s.length) :=
    recognise_eq_some_iff.mpr ⟨rfl, hs, List.prefix_append _ _, rfl⟩
  obtain ⟨hpos, hle⟩ := exact_recognise _ _ _ _ hrec
  rw [pieces_of_some hrec hpos hle, ← length_text, List.take_left, List.drop_left]

theorem Valid.found_append {s : Statement} (hs : s.Valid) (rest : Text) :
    found (recognise s.kind) (s.text ++ rest) = s :: found (recognise s.kind) rest := by
  have hsplit : pieces (recognise s.kind) (s.text ++ rest) =
      [.hit s s.text] ++ pieces (recognise s.kind) rest := hs.pieces_append rest
  rw [found_eq_append 0 hsplit]
  rfl

/-- Where no statement of the kind is opened, none is found. -/
theorem found_of_not_opener {kind : FieldKind} {c : Char} {cs : Text}
    (h : ¬ kind.opener <+: c :: cs) :
    found (recognise kind) (c :: cs) = found (recognise kind) cs := by
  refine found_of_none (Option.eq_none_iff_forall_ne_some.mpr fun ⟨s, n⟩ hrec => h ?_)
  obtain ⟨rfl, _, hpre, _⟩ := recognise_eq_some_iff.mp hrec
  rw [text_eq] at hpre
  exact (List.prefix_append _ _).trans hpre

/-- Characters that are no caret are passed over. -/
theorem found_append_of_not_mem {kind : FieldKind} {w : Text} (hw : '^' ∉ w) (z : Text) :
    found (recognise kind) (w ++ z) = found (recognise kind) z := by
  induction w with
  | nil => rfl
  | cons c w ih =>
      rw [List.mem_cons, not_or] at hw
      rw [List.cons_append, found_of_not_opener, ih hw.2]
      obtain ⟨name, hname, _⟩ := isCommand_opener kind
      rw [hname]
      exact fun hpre => hw.1 (List.cons_prefix_cons.mp hpre).1

/-- The pieces that a scan for statements of a kind can give. -/
def Scanned (kind : FieldKind) (ps : List (Piece Statement)) : Prop :=
  ∀ s raw, .hit s raw ∈ ps → s.kind = kind ∧ s.Valid ∧ raw = s.text

theorem scanned_pieces (kind : FieldKind) (t : Text) :
    Scanned kind (pieces (recognise kind) t) := by
  induction t using (exact_recognise kind).induction with
  | nil => exact fun s raw h => absurd h (by simp)
  | plain c cs h ih =>
      rw [pieces_of_none h]
      intro s raw hmem
      rcases List.mem_cons.mp hmem with h | h
      · exact absurd h (by simp)
      · exact ih s raw h
  | hit t a n h ih =>
      obtain ⟨hpos, hle⟩ := exact_recognise kind _ _ _ h
      obtain ⟨hkind, hvalid, ⟨rest, rfl⟩, rfl⟩ := recognise_eq_some_iff.mp h
      rw [pieces_of_some h hpos hle]
      intro s raw hmem
      rcases List.mem_cons.mp hmem with h | h
      · obtain ⟨rfl, rfl⟩ := Piece.hit.inj h
        refine ⟨hkind, hvalid, ?_⟩
        rw [← length_text, List.take_left]
      · exact ih s raw h

theorem Scanned.of_append_right {kind : FieldKind} (ps : List (Piece Statement))
    {qs : List (Piece Statement)} (h : Scanned kind (ps ++ qs)) : Scanned kind qs :=
  fun s raw hmem => h s raw (List.mem_append_right ps hmem)

theorem Scanned.of_append_left {kind : FieldKind} {ps : List (Piece Statement)}
    (qs : List (Piece Statement)) (h : Scanned kind (ps ++ qs)) : Scanned kind ps :=
  fun s raw hmem => h s raw (List.mem_append_left qs hmem)

/-- Matches are valid statements of the kind and lie within the text that the pieces spell. -/
theorem Scanned.of_mem_hitsFrom {kind : FieldKind} {offset i : Nat} {ps : List (Piece Statement)}
    {s : Statement} (hps : Scanned kind ps) (h : (i, s) ∈ hitsFrom offset ps) :
    s.kind = kind ∧ s.Valid ∧ offset ≤ i ∧ i + s.length ≤ offset + (spell ps).length := by
  obtain ⟨before, raw, after, rfl, rfl⟩ := mem_hitsFrom_iff.mp h
  obtain ⟨hkind, hs, rfl⟩ := hps s raw (by simp)
  have hlength := s.length_text
  refine ⟨hkind, hs, by omega, ?_⟩
  simp only [spell_append, spell_cons, Piece.text, List.length_append]
  omega

/-- A scan falls apart at a place if all its matches end before it or start behind it. -/
theorem exists_pieces_of_hitsFrom {kind : FieldKind} (offset : Nat) {t u : Text}
    (h : ∀ i s, (i, s) ∈ hitsFrom offset (pieces (recognise kind) (t ++ u)) →
      i + s.length ≤ offset + t.length ∨ offset + t.length ≤ i) :
    ∃ ps, spell ps = t ∧ pieces (recognise kind) (t ++ u) = ps ++ pieces (recognise kind) u := by
  obtain ⟨ps, hps, heq⟩ : ∃ ps, spell ps = (t ++ u).take t.length ∧
      pieces (recognise kind) (t ++ u) =
        ps ++ pieces (recognise kind) ((t ++ u).drop t.length) := by
    refine exists_pieces_eq_append (exact_recognise kind) (by simp) ?_
    intro before s raw after hb
    obtain ⟨_, _, rfl⟩ := scanned_pieces kind (t ++ u) s raw (by rw [hb]; simp)
    have := h _ s (mem_hitsFrom_iff.mpr ⟨before, _, after, hb, rfl⟩)
    have hlength := s.length_text
    omega
  rw [List.take_left] at hps
  rw [List.drop_left] at heq
  exact ⟨ps, hps, heq⟩

/-- Text in front of all matches is passed over. -/
theorem pieces_of_hitsFrom_behind {kind : FieldKind} (offset : Nat) {t u : Text}
    (h : ∀ i s, (i, s) ∈ hitsFrom offset (pieces (recognise kind) (t ++ u)) →
      offset + t.length ≤ i) :
    pieces (recognise kind) (t ++ u) = t.map .plain ++ pieces (recognise kind) u := by
  obtain ⟨ps, rfl, heq⟩ := exists_pieces_of_hitsFrom offset fun i s hmem => Or.inr (h i s hmem)
  have hscanned := scanned_pieces kind (spell ps ++ u)
  rw [heq] at hscanned
  -- a match among the pieces in front would start too early
  have hnone : hitsFrom offset ps = [] := by
    refine List.eq_nil_iff_forall_not_mem.mpr fun (i, s) hmem => ?_
    obtain ⟨_, _, _, hle⟩ := (hscanned.of_append_left _).of_mem_hitsFrom hmem
    have := h i s (by rw [heq, hitsFrom_append]; exact List.mem_append_left _ hmem)
    have := s.length_pos
    omega
  rw [heq, ← eq_map_plain_of_hitsFrom_eq_nil hnone]

end Statement

/-! ## Records of some pieces -/

/-- The records of pieces whose numbers and offsets start where they are told to. -/
def recordsFrom (ordinal offset : Nat) (ps : List (Piece Statement)) : List Record :=
  ((hitsFrom offset ps).zipIdx ordinal).map fun ((start, statement), ordinal) =>
    { ordinal := ordinal, start := start, statement := statement }

theorem records_eq (kind : FieldKind) (document : Text) :
    records kind document = recordsFrom 0 0 (pieces (recognise kind) document) := rfl

@[simp] theorem recordsFrom_nil (ordinal offset : Nat) : recordsFrom ordinal offset [] = [] := rfl

@[simp] theorem recordsFrom_plain (ordinal offset : Nat) (c : Char) (ps : List (Piece Statement)) :
    recordsFrom ordinal offset (.plain c :: ps) = recordsFrom ordinal (offset + 1) ps := rfl

@[simp] theorem recordsFrom_hit (ordinal offset : Nat) (s : Statement) (raw : Text)
    (ps : List (Piece Statement)) :
    recordsFrom ordinal offset (.hit s raw :: ps) =
      { ordinal := ordinal, start := offset, statement := s }
        :: recordsFrom (ordinal + 1) (offset + raw.length) ps := rfl

theorem recordsFrom_append (ordinal offset : Nat) (ps qs : List (Piece Statement)) :
    recordsFrom ordinal offset (ps ++ qs) = recordsFrom ordinal offset ps
      ++ recordsFrom (ordinal + (hitsFrom offset ps).length) (offset + (spell ps).length) qs := by
  simp only [recordsFrom, hitsFrom_append, List.zipIdx_append, List.map_append]

theorem recordsFrom_add (ordinal offset shift : Nat) (ps : List (Piece Statement)) :
    recordsFrom ordinal (offset + shift) ps =
      (recordsFrom ordinal offset ps).map fun r => { r with start := r.start + shift } := by
  simp only [recordsFrom, hitsFrom_add, List.zipIdx_map, List.map_map]
  rfl

theorem map_recordsFrom (ordinal offset : Nat) (ps : List (Piece Statement)) :
    (recordsFrom ordinal offset ps).map (fun r => (r.start, r.statement)) = hitsFrom offset ps := by
  simp only [recordsFrom, List.map_map]
  exact List.zipIdx_map_fst ordinal (hitsFrom offset ps)

/-- What the pieces before, at and behind a record are. -/
theorem exists_pieces_of_mem_recordsFrom {ordinal offset : Nat} {ps : List (Piece Statement)}
    {r : Record} (h : r ∈ recordsFrom ordinal offset ps) :
    ∃ before raw after, ps = before ++ .hit r.statement raw :: after ∧
      r.start = offset + (spell before).length ∧
      r.ordinal = ordinal + (hitsFrom offset before).length := by
  induction ps generalizing ordinal offset with
  | nil => exact absurd h (by simp)
  | cons p ps ih =>
      cases p with
      | plain c =>
          rw [recordsFrom_plain] at h
          obtain ⟨before, raw, after, rfl, hstart, hordinal⟩ := ih h
          exact ⟨.plain c :: before, raw, after, rfl,
            by rw [hstart]; simp [Piece.text]; omega, hordinal⟩
      | hit s raw' =>
          rw [recordsFrom_hit, List.mem_cons] at h
          rcases h with rfl | h
          · exact ⟨[], raw', ps, rfl, rfl, rfl⟩
          · obtain ⟨before, raw, after, rfl, hstart, hordinal⟩ := ih h
            exact ⟨.hit s raw' :: before, raw, after, rfl,
              by rw [hstart]; simp [Piece.text]; omega,
              by rw [hordinal]; simp [hitsFrom]; omega⟩

/-- Records lie within the text that the pieces spell, and their numbers within the count. -/
theorem bounds_of_mem_recordsFrom {kind : FieldKind} {ordinal offset : Nat}
    {ps : List (Piece Statement)} (hps : Scanned kind ps) {r : Record}
    (h : r ∈ recordsFrom ordinal offset ps) :
    offset ≤ r.start ∧ r.stop ≤ offset + (spell ps).length ∧
      ordinal ≤ r.ordinal ∧ r.ordinal < ordinal + (hitsFrom offset ps).length := by
  obtain ⟨before, raw, after, rfl, hstart, hordinal⟩ := exists_pieces_of_mem_recordsFrom h
  obtain ⟨_, _, rfl⟩ := hps r.statement raw (by simp)
  have hlength := r.statement.length_text
  refine ⟨by omega, ?_, by omega, ?_⟩
  · simp only [Record.stop, spell_append, spell_cons, Piece.text, List.length_append]
    omega
  · simp only [hitsFrom_append, hitsFrom, List.length_append, List.length_cons]
    omega

/-- Records stand one behind the other, in the order of their numbers. -/
theorem pairwise_recordsFrom {kind : FieldKind} {ordinal offset : Nat}
    {ps : List (Piece Statement)} (hps : Scanned kind ps) :
    (recordsFrom ordinal offset ps).Pairwise fun r s =>
      r.stop ≤ s.start ∧ r.ordinal < s.ordinal := by
  induction ps generalizing ordinal offset with
  | nil => exact List.Pairwise.nil
  | cons p ps ih =>
      have hrest : Scanned kind ps := Scanned.of_append_right [p] hps
      cases p with
      | plain c => exact ih hrest
      | hit s raw =>
          obtain ⟨_, _, rfl⟩ := hps s raw List.mem_cons_self
          refine List.Pairwise.cons (fun r hr => ?_) (ih hrest)
          have hbounds := bounds_of_mem_recordsFrom hrest hr
          have hlength := s.length_text
          simp only [Record.stop]
          omega

/-! ## Records of a document -/

theorem map_records (kind : FieldKind) (document : Text) :
    (records kind document).map (fun r => (r.start, r.statement))
      = hits (recognise kind) document := map_recordsFrom 0 0 _

theorem map_statement_records (kind : FieldKind) (document : Text) :
    (records kind document).map Record.statement = found (recognise kind) document := by
  rw [found, ← map_records, List.map_map]
  rfl

/-- Records are numbered from zero. -/
theorem ordinal_getElem_records {kind : FieldKind} {document : Text} {i : Nat}
    (h : i < (records kind document).length) : ((records kind document)[i]).ordinal = i := by
  simp [records]

/-- Where the statements of two documents correspond, so do their records, number by number. -/
theorem exists_mem_records_of_forall₂ {kind : FieldKind} {t u : Text}
    {R : Statement → Statement → Prop}
    (h : List.Forall₂ R (found (recognise kind) t) (found (recognise kind) u)) {r : Record}
    (hr : r ∈ records kind t) :
    ∃ r' ∈ records kind u, r'.ordinal = r.ordinal ∧ R r.statement r'.statement := by
  obtain ⟨i, hi, rfl⟩ := List.mem_iff_getElem.mp hr
  rw [← map_statement_records, ← map_statement_records] at h
  have hlength := h.length_eq
  rw [List.length_map, List.length_map] at hlength
  have hi' : i < (records kind u).length := by omega
  refine ⟨(records kind u)[i], List.getElem_mem hi', ?_, ?_⟩
  · rw [ordinal_getElem_records, ordinal_getElem_records]
  · have hrel := h.get (i := i) (by simpa using hi) (by simpa using hi')
    simpa using hrel

theorem kind_valid_of_mem_records {kind : FieldKind} {document : Text} {r : Record}
    (h : r ∈ records kind document) : r.kind = kind ∧ r.statement.Valid := by
  obtain ⟨before, raw, after, hps, _⟩ := exists_pieces_of_mem_recordsFrom h
  obtain ⟨hkind, hvalid, _⟩ := scanned_pieces kind document r.statement raw (by rw [hps]; simp)
  exact ⟨hkind, hvalid⟩

/-- A record's statement stands in the document where the record says. -/
theorem exists_eq_append_of_mem_records {kind : FieldKind} {document : Text} {r : Record}
    (h : r ∈ records kind document) :
    ∃ before after, document = before ++ (r.statement.text ++ after) ∧ r.start = before.length := by
  obtain ⟨before, raw, after, hps, hstart, _⟩ := exists_pieces_of_mem_recordsFrom h
  obtain ⟨_, _, rfl⟩ := scanned_pieces kind document r.statement raw (by rw [hps]; simp)
  refine ⟨spell before, spell after, ?_, by simpa using hstart⟩
  rw [← spell_pieces (exact_recognise kind) document, hps, spell_append, spell_cons]
  rfl

theorem pairwise_records (kind : FieldKind) (document : Text) :
    (records kind document).Pairwise fun r s => r.stop ≤ s.start ∧ r.ordinal < s.ordinal :=
  pairwise_recordsFrom (scanned_pieces kind document)

theorem Record.start_lt_stop (r : Record) : r.start < r.stop := by
  have := r.statement.length_pos
  simp only [Record.stop]
  omega

theorem Record.overlaps_iff {r s : Record} :
    r.overlaps s = true ↔ r.start < s.stop ∧ s.start < r.stop := by
  simp [Record.overlaps]

theorem Record.overlaps_comm (r s : Record) : r.overlaps s = s.overlaps r := by
  simp only [Record.overlaps, Bool.and_comm]

/-- Two records of a kind are the same, or one ends before the other starts. -/
theorem eq_or_stop_le_of_mem_records {kind : FieldKind} {document : Text} {r s : Record}
    (hr : r ∈ records kind document) (hs : s ∈ records kind document) :
    r = s ∨ (r.stop ≤ s.start ∧ r.ordinal < s.ordinal)
      ∨ (s.stop ≤ r.start ∧ s.ordinal < r.ordinal) := by
  have hpairs := pairwise_records kind document
  obtain ⟨i, hi, rfl⟩ := List.mem_iff_getElem.mp hr
  obtain ⟨j, hj, rfl⟩ := List.mem_iff_getElem.mp hs
  rcases Nat.lt_trichotomy i j with hij | rfl | hij
  · exact Or.inr (Or.inl (List.pairwise_iff_getElem.mp hpairs i j hi hj hij))
  · exact Or.inl rfl
  · exact Or.inr (Or.inr (List.pairwise_iff_getElem.mp hpairs j i hj hi hij))

end LabelTemplate
