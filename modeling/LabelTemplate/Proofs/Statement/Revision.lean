import LabelTemplate.Proofs.Numeral.Integer
import LabelTemplate.Proofs.Statement.Replacement

/-!
# Writing a statement again and scanning again

`revised` is the statement that `render` writes. If what changes is admissible, the
revised statement is valid, so a scan finds it where the old one stood. The other
records are the same as before: those in front because the old statement completed
whatever could have run into it, those behind because a scan starts afresh there.
-/

namespace LabelTemplate

open Scan Command

namespace Statement

/-- The statement that is written when another is written with a change. -/
def revised (s : Statement) (change : Change) : Statement where
  kind := s.kind
  x := match change.position with | some p => Text.ofInt p.x | none => s.x
  y := match change.position with | some p => Text.ofInt p.y | none => s.y
  middle := s.middle ++ if s.addsMarker change then hexMarker else []
  value := change.value.getD s.value

/-- A change after which the statement is read as it was meant. -/
structure Change.Admissible (kind : FieldKind) (change : Change) : Prop where
  /-- The new value does not end the statement early. -/
  value : ∀ v ∈ change.value, ValidValue kind v
  /-- The new coordinates have no more digits than are read. -/
  position : ∀ p ∈ change.position, p.Short

theorem text_revised (s : Statement) (change : Change) :
    (s.revised change).text = s.render change := by
  cases hposition : change.position <;>
    simp [text, render, revised, coordinates, Position.text, hposition]

theorem isCoordinate_of_mem_ofInt (n : Int) : ∀ c ∈ Text.ofInt n, isCoordinate c = true := by
  have hdigits : ∀ m, ∀ c ∈ Nat.toDigits 10 m, isCoordinate c = true := by
    intro m c hc
    have hdigit := Integer.isDigit_of_mem_toDigits c hc
    have hcomma : c ≠ ',' := by rintro rfl; exact absurd hdigit (by decide)
    have hcaret : c ≠ '^' := by rintro rfl; exact absurd hdigit (by decide)
    simp [isCoordinate, hcomma, hcaret, isBlank_of_isDigit hdigit]
  intro c hc
  cases n with
  | ofNat m => exact hdigits m c (Text.ofInt_ofNat m ▸ hc)
  | negSucc m =>
      rw [Text.ofInt_negSucc, List.mem_cons] at hc
      rcases hc with rfl | hc
      · decide
      · exact hdigits (m + 1) c hc

theorem hexMarker_not_mem_stops (kind : FieldKind) : hexMarker ∉ [fieldEnd, kind.dataCommand] := by
  cases kind <;> decide

/-- The search goes on over a hex marker. -/
theorem free_hexMarker (kind : FieldKind) : Free kind hexMarker := by
  have h := headed_hexMarker.free_append (hexMarker_not_mem_stops kind) (free_nil kind)
  rwa [List.append_nil] at h

/-- **An admissible change of a valid statement gives a valid statement.** -/
theorem Valid.revised {s : Statement} (hs : s.Valid) {change : Change}
    (hchange : change.Admissible s.kind) : (s.revised change).Valid := by
  have hmarker : ∀ t, t = (if s.addsMarker change then hexMarker else []) →
      (t = [] ∨ Text.AtCaret t) ∧ Free s.kind t := by
    rintro t rfl
    split
    · exact ⟨Or.inr ⟨_, rfl⟩, free_hexMarker s.kind⟩
    · exact ⟨Or.inl rfl, free_nil s.kind⟩
  obtain ⟨hcaret, hfreeMarker⟩ := hmarker _ rfl
  obtain ⟨lead, rest, hmiddle, hlead, hfree⟩ := hs.middle
  constructor
  · intro c hc
    cases hp : change.position with
    | none => rw [Statement.revised, hp] at hc; exact hs.x c hc
    | some p => rw [Statement.revised, hp] at hc; exact isCoordinate_of_mem_ofInt p.x c hc
  · intro c hc
    cases hp : change.position with
    | none => rw [Statement.revised, hp] at hc; exact hs.y c hc
    | some p => rw [Statement.revised, hp] at hc; exact isCoordinate_of_mem_ofInt p.y c hc
  · intro c hc
    have hboundary := hs.boundary
    cases hm : s.middle with
    | cons d ds =>
        simp only [Statement.revised, hm] at hc hboundary
        exact hboundary c hc
    | nil =>
        simp only [Statement.revised, hm, List.nil_append] at hc
        -- an empty middle is followed by the marker, if by anything
        rcases hcaret with hnil | ⟨u, hu⟩
        · rw [hnil] at hc; exact absurd hc (by simp)
        · rw [hu] at hc; obtain rfl := Option.some.inj hc; decide
  · refine ⟨lead, rest ++ if s.addsMarker change then hexMarker else [], ?_, hlead,
      free_append hfree hfreeMarker hcaret⟩
    simp only [Statement.revised, hmiddle, List.append_assoc]
  · show ValidValue s.kind (change.value.getD s.value)
    cases hv : change.value with
    | none => exact hs.value
    | some v => exact hchange.value v hv

theorem hasHexMarker_iff {s : Statement} (hkind : s.kind = .text) :
    s.hasHexMarker = true ↔ hexMarker <:+: s.middle := by
  simp only [hasHexMarker, ownEscape?, hkind, markerEscape?, Option.isSome_map]
  cases hcut : Text.cut? hexMarker s.middle with
  | none => simpa using (Text.cut?_eq_none_iff isCommand_hexMarker.ne_nil).mp hcut
  | some ab =>
      have hsome : ¬ Text.cut? hexMarker s.middle = none := by simp [hcut]
      rw [Text.cut?_eq_none_iff isCommand_hexMarker.ne_nil, Decidable.not_not] at hsome
      simpa using hsome

/-- A text that is to have a hex marker has one when it is written again. -/
theorem hasHexMarker_revised {s : Statement} (hkind : s.kind = .text) {change : Change}
    (hensure : change.ensureHex = true) : (s.revised change).hasHexMarker = true := by
  rw [hasHexMarker_iff (show (s.revised change).kind = .text from hkind)]
  cases hmarker : s.hasHexMarker with
  | true =>
      exact ((hasHexMarker_iff hkind).mp hmarker).trans (List.prefix_append _ _).isInfix
  | false =>
      have hadds : s.addsMarker change = true := by simp [addsMarker, hensure, hmarker, hkind]
      simp only [Statement.revised, hadds, if_true]
      exact (List.suffix_append _ _).isInfix

theorem position?_revised {s : Statement} {change : Change} {p : Position}
    (hp : change.position = some p) (hshort : p.Short) :
    (s.revised change).position? = some p := by
  simp only [position?, Statement.revised, hp]
  exact Position.read?_ofInt hshort

end Statement

/-! ## Scanning again -/

/-- A statement in place of another of its kind: the pieces are the same but for that one. -/
theorem pieces_replace {source : Text} {before after : List (Piece Statement)}
    {s s' : Statement} (hkind : s'.kind = s.kind) (hs' : s'.Valid)
    (h : pieces (Statement.recognise s.kind) source = before ++ .hit s s.text :: after) :
    pieces (Statement.recognise s.kind) (spell before ++ (s'.text ++ spell after)) =
      before ++ .hit s' s'.text :: after := by
  have hex := Statement.exact_recognise s.kind
  obtain ⟨_, hs, _⟩ := Statement.scanned_pieces s.kind source s s.text (by rw [h]; simp)
  have hafter : pieces (Statement.recognise s.kind) (spell after) = after :=
    pieces_of_eq_append hex (before ++ [.hit s s.text]) (by rw [h]; simp)
  have hsource : source = spell before ++ (s.text ++ spell after) := by
    rw [← spell_pieces hex source, h, spell_append, spell_cons]
    rfl
  obtain ⟨hreplaceable, hpieces⟩ := hs.replace hs' hkind (spell after) (spell after)
  rw [Statement.pieces_append_of_replaceable hreplaceable, hpieces, hafter]
  rw [← hsource, h, hs.pieces_append, hafter]

/--
A document cut around a record: what its records are, and what they are with another
statement of the kind in the record's place.
-/
theorem exists_cut_of_mem_records {kind : FieldKind} {source : Text} {r : Record}
    (hr : r ∈ records kind source) :
    ∃ before after : List (Piece Statement),
      Statement.Scanned kind before ∧ Statement.Scanned kind after ∧
      r.start = (spell before).length ∧
      source = spell before ++ (r.statement.text ++ spell after) ∧
      ∀ s' : Statement, s'.kind = kind → s'.Valid →
        records kind (spell before ++ (s'.text ++ spell after)) =
          recordsFrom 0 0 before ++ { r with statement := s' } ::
            recordsFrom (r.ordinal + 1) (r.start + s'.length) after := by
  obtain ⟨before, raw, after, hps, hstart, hordinal⟩ := exists_pieces_of_mem_recordsFrom hr
  have hscanned := Statement.scanned_pieces kind source
  rw [hps] at hscanned
  obtain ⟨rfl, hvalid, rfl⟩ := hscanned r.statement raw (by simp)
  refine ⟨before, after, fun s raw hmem => hscanned s raw (List.mem_append_left _ hmem), ?_,
    by omega, ?_, ?_⟩
  · exact Statement.Scanned.of_append_right (before ++ [.hit r.statement r.statement.text])
      (by simpa using hscanned)
  · rw [← spell_pieces (Statement.exact_recognise r.statement.kind) source, hps, spell_append,
      spell_cons]
    rfl
  · intro s' hkind hs'
    rw [records_eq, pieces_replace hkind hs' hps, recordsFrom_append, recordsFrom_hit, ← hstart,
      ← hordinal, s'.length_text]

/-- The record that takes the place of `r` when its statement is written with a change. -/
def Record.revised (r : Record) (change : Statement.Change) : Record :=
  { r with statement := r.statement.revised change }

/--
The records of a document and of the document with one of them written again: what stands
in front is the same, and so is what stands behind but for where it starts.
-/
theorem exists_cut_after_render {kind : FieldKind} {source : Text} {r : Record}
    {change : Statement.Change} (hr : r ∈ records kind source)
    (hchange : change.Admissible kind) :
    ∃ before after : List (Piece Statement),
      Statement.Scanned kind before ∧ Statement.Scanned kind after ∧
      r.start = (spell before).length ∧
      records kind source =
        recordsFrom 0 0 before ++ r :: recordsFrom (r.ordinal + 1) (0 + r.stop) after ∧
      records kind (source.take r.start ++ r.statement.render change ++ source.drop r.stop) =
        recordsFrom 0 0 before ++ r.revised change ::
          recordsFrom (r.ordinal + 1)
            (0 + (r.start + (r.statement.render change).length)) after := by
  obtain ⟨hkind, hvalid⟩ := kind_valid_of_mem_records hr
  obtain ⟨before, after, hbefore, hafter, hstart, hsource, hrecords⟩ :=
    exists_cut_of_mem_records hr
  have hrevised : (r.statement.revised change).Valid :=
    hvalid.revised ((show r.statement.kind = kind from hkind) ▸ hchange)
  have hcut : source.take r.start ++ r.statement.render change ++ source.drop r.stop =
      spell before ++ ((r.statement.revised change).text ++ spell after) := by
    rw [Statement.text_revised, hsource, Record.stop, hstart, List.take_left,
      ← r.statement.length_text, ← List.append_assoc, ← List.length_append, ← List.append_assoc,
      List.drop_left]
  refine ⟨before, after, hbefore, hafter, hstart, ?_, ?_⟩
  · rw [Nat.zero_add, hsource]
    exact hrecords r.statement hkind hvalid
  · rw [Nat.zero_add, hcut, hrecords (r.statement.revised change) hkind hrevised,
      ← Statement.length_text, Statement.text_revised]
    rfl

/--
**Writing a record and scanning again agree.**

With an admissible change of one record the document has the same records: the others
with their numbers and statements, those behind the record moved by as much as its
statement got longer, and the record itself with what was written into it.
-/
theorem records_after_render {kind : FieldKind} {source : Text} {r : Record}
    {change : Statement.Change} (hr : r ∈ records kind source)
    (hchange : change.Admissible kind) :
    let rendered := r.statement.render change
    let rescanned := records kind (source.take r.start ++ rendered ++ source.drop r.stop)
    rescanned.length = (records kind source).length ∧
      (∀ q ∈ records kind source, q ≠ r → ∃ q' ∈ rescanned,
        q'.ordinal = q.ordinal ∧ q'.statement = q.statement ∧
          (q'.start : Int) = q.start + if r.start < q.start then
            (rendered.length : Int) - r.statement.length else 0) ∧
      ∃ r' ∈ rescanned, r'.ordinal = r.ordinal ∧ r'.start = r.start ∧
        r'.value = change.value.getD r.value ∧
        (∀ p, change.position = some p → r'.position? = some p) ∧
        (change.position = none →
          r'.statement.x = r.statement.x ∧ r'.statement.y = r.statement.y) ∧
        (kind = .text → change.ensureHex = true → r'.statement.hasHexMarker = true) := by
  intro rendered rescanned
  obtain ⟨before, after, hbefore, hafter, hstart, hold, hnew⟩ :=
    exists_cut_after_render hr hchange
  rw [recordsFrom_add] at hold hnew
  replace hnew : rescanned = _ := hnew
  refine ⟨by rw [hnew, hold]; simp, ?_, r.revised change, by rw [hnew]; simp, rfl, rfl, rfl, ?_,
    ?_, ?_⟩
  · intro q hq hne
    rw [hold, List.mem_append, List.mem_cons] at hq
    rcases hq with hq | rfl | hq
    · -- a record in front stays where it is
      have hbounds := bounds_of_mem_recordsFrom hbefore hq
      have hpos := q.start_lt_stop
      refine ⟨q, by rw [hnew]; exact List.mem_append_left _ hq, rfl, rfl, ?_⟩
      rw [if_neg (by omega), Int.add_zero]
    · exact absurd rfl hne
    · -- a record behind moves with the end of the statement
      obtain ⟨q₀, hq₀, rfl⟩ := List.mem_map.mp hq
      have hbounds := bounds_of_mem_recordsFrom hafter hq₀
      have hpos := r.statement.length_pos
      refine ⟨{ q₀ with start := q₀.start + (r.start + rendered.length) }, ?_, rfl, rfl, ?_⟩
      · rw [hnew]
        exact List.mem_append_right _ (List.mem_cons_of_mem _ (List.mem_map.mpr ⟨q₀, hq₀, rfl⟩))
      · rw [if_pos (by simp only [Record.stop]; omega)]
        simp only [Record.stop]
        omega
  · exact fun p hp => Statement.position?_revised hp (hchange.position p hp)
  · intro hnone
    simp only [Record.revised, Statement.revised, hnone, and_self]
  · exact fun htext hensure => Statement.hasHexMarker_revised
      ((kind_valid_of_mem_records hr).1.trans htext) hensure

/-- The first of two texts with everything changed at once. -/
theorem records_after_render_of_two_texts :
    let source := "^FT1,2^FDa^FS^FT3,4^FDb^FS".toList
    let r : Record := ⟨0, 0, ⟨.text, ['1'], ['2'], [], ['a']⟩⟩
    let change : Statement.Change :=
      { value := some ['x', 'y'], position := some ⟨-5, 60⟩, ensureHex := true }
    r ∈ records .text source ∧ change.Admissible .text ∧
      (records .text (source.take r.start ++ r.statement.render change
        ++ source.drop r.stop)).length = (records .text source).length := by
  intro source r change
  have hr : r ∈ records .text source := by decide
  have hchange : change.Admissible .text :=
    ⟨fun v hv => by obtain rfl := Option.some.inj hv; decide,
      fun p hp => by obtain rfl := Option.some.inj hp; decide⟩
  exact ⟨hr, hchange, (records_after_render hr hchange).1⟩

end LabelTemplate
