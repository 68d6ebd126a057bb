import LabelTemplate.Proofs.Statement.Records

/-!
# The records are the statements of the grammar

`Begins` is the grammar of field statements, said by places: which commands stand where, and
which are absent from all places before. It mentions no search. `Enumerates` says what it is to list
the statements of a document from the left without overlap.

`enumerates_iff_eq_records` says that the records of a document are such a list and the only one.
The recogniser knows a statement by its parts instead, so the bridge is `absentBefore_iff`: that a
command is absent from the places of a stretch and that it does not occur in the stretch are the
same, because what follows the stretch begins with a caret.
-/

namespace LabelTemplate

open Text Command Scan

namespace Statement

/-! ## The grammar -/

/-- At none of the first `n` places of a text does `p` begin. -/
def AbsentBefore (n : Nat) (p t : Text) : Prop := ∀ i < n, ¬ p <+: t.drop i

/-- A coordinate pair at the beginning of a text, and what follows it. -/
structure BeginsWithPair (t x y rest : Text) : Prop where
  /-- Two runs with a comma between them. -/
  parts : t = x ++ ',' :: (y ++ rest)
  /-- The first run; the comma ends it. -/
  x : ∀ c ∈ x, isCoordinate c = true
  /-- The second run. -/
  y : ∀ c ∈ y, isCoordinate c = true
  /-- The second run is as long as can be. -/
  longest : ∀ c ∈ rest.head?, isCoordinate c = false

/--
The first of `^FD` and `^FS` in a text is a `^FD`, and some `^FS` comes after it: the middle is
what stands before the one, the value what stands between the two.
-/
structure BeginsWithData (t middle value : Text) : Prop where
  /-- A data command, and an end behind it. -/
  parts : ∃ rest, t = middle ++ (fieldData ++ (value ++ (fieldEnd ++ rest)))
  /-- No data command comes before. -/
  firstData : AbsentBefore middle.length fieldData t
  /-- No statement ends before. -/
  noEnd : AbsentBefore middle.length fieldEnd t
  /-- The end is the first one behind the data command. -/
  firstEnd : AbsentBefore value.length fieldEnd (t.drop (middle.length + fieldData.length))

/-- A graphic call: a name directly behind `^XG`, and the comma behind it. -/
def call (name : Text) : Text := graphicCall ++ name ++ [',']

/-- Can this be called: is it a non-empty run without comma, caret and line break? -/
def IsCallable (name : Text) : Prop := name ≠ [] ∧ ∀ c ∈ name, isName c = true

/-- There is a call before any `^FS`: the middle is what stands before the first one. -/
structure BeginsWithCall (t middle name : Text) : Prop where
  /-- A call. -/
  parts : ∃ rest, t = middle ++ (call name ++ rest)
  /-- The name can be called. -/
  name : IsCallable name
  /-- No statement ends before. -/
  noEnd : AbsentBefore middle.length fieldEnd t
  /-- No other call comes before. -/
  first : ∀ other, IsCallable other → AbsentBefore middle.length (call other) t

/-- A statement at the beginning of a text. -/
inductive Begins : Text → Statement → Prop where
  | text {t x y rest middle value : Text} :
      BeginsWithPair t x y rest → BeginsWithData rest middle value →
      Begins (fieldTypeset ++ t) ⟨.text, x, y, middle, value⟩
  | barcode {t x y command rest middle value : Text} {orientation : Char} :
      BeginsWithPair t x y (command ++ [orientation, ','] ++ rest) →
      command ∈ [ean13, code128] → orientation.isUpper = true →
      BeginsWithData rest middle value →
      Begins (fieldTypeset ++ t) ⟨.barcode, x, y, command ++ [orientation, ','] ++ middle, value⟩
  | image {t x y rest middle name : Text} :
      BeginsWithPair t x y rest → BeginsWithCall rest middle name →
      Begins (fieldOrigin ++ t) ⟨.image, x, y, middle, name⟩

/-- A statement of the kind stands at a place of a document. -/
def StandsAt (kind : FieldKind) (document : Text) (i : Nat) (s : Statement) : Prop :=
  s.kind = kind ∧ Begins (document.drop i) s

/-! ## The recogniser knows the grammar -/

/-- In front of a caret a command is absent from a stretch if it does not occur in it. -/
theorem absentBefore_iff {p m d : Text} (hp : IsCommand p) (hd : AtCaret d) :
    AbsentBefore m.length p (m ++ d) ↔ ¬ p <:+: m := by
  induction m with
  | nil =>
      refine iff_of_true (fun i hi => absurd hi (by simp)) ?_
      exact fun h => hp.ne_nil (List.infix_nil.mp h)
  | cons c m ih =>
      rw [List.infix_cons_iff, not_or, ← ih, ← hp.prefix_append_iff (List.cons_ne_nil c m) hd]
      constructor
      · exact fun h => ⟨h 0 (by simp), fun i hi => h (i + 1) (by simpa using hi)⟩
      · rintro ⟨hhere, hthere⟩ i hi
        cases i with
        | zero => exact hhere
        | succ i => exact hthere i (by simpa using hi)

theorem coordinates?_eq_some_iff_beginsWithPair {t x y rest : Text} :
    coordinates? t = some (x, y, rest) ↔ BeginsWithPair t x y rest := by
  rw [coordinates?_eq_some_iff]
  exact ⟨fun ⟨hparts, hx, hy, hlongest⟩ => ⟨hparts, hx, hy, hlongest⟩,
    fun h => ⟨h.parts, h.x, h.y, h.longest⟩⟩

theorem payload?_eq_some_iff_beginsWithData {t m v : Text} :
    payload? t = some (m, v) ↔ BeginsWithData t m v := by
  rw [payload?_eq_some_iff (show FieldKind.text ≠ .image by decide)]
  have hdata : ∀ u, AtCaret (fieldData ++ u) := isCommand_fieldData.atCaret
  have hend : ∀ u, AtCaret (fieldEnd ++ u) := isCommand_fieldEnd.atCaret
  have hdrop : ∀ rest, (m ++ (fieldData ++ (v ++ (fieldEnd ++ rest)))).drop
      (m.length + fieldData.length) = v ++ (fieldEnd ++ rest) := by
    intro rest
    rw [← List.append_assoc, ← List.length_append, List.drop_left]
  constructor
  · rintro ⟨hfree, hvalue, rest, rfl⟩
    simp only [List.append_assoc]
    exact ⟨⟨rest, rfl⟩,
      (absentBefore_iff isCommand_fieldData (hdata _)).mpr (hfree _ (.fieldData (by decide))),
      (absentBefore_iff isCommand_fieldEnd (hdata _)).mpr (hfree _ (.fieldEnd _)),
      by rw [hdrop rest]; exact (absentBefore_iff isCommand_fieldEnd (hend _)).mpr hvalue⟩
  · rintro ⟨⟨rest, rfl⟩, hfirst, hnoEnd, hfirstEnd⟩
    rw [hdrop rest] at hfirstEnd
    refine ⟨fun p hp => ?_, (absentBefore_iff isCommand_fieldEnd (hend _)).mp hfirstEnd, rest,
      by simp⟩
    cases hp with
    | fieldEnd => exact (absentBefore_iff isCommand_fieldEnd (hdata _)).mp hnoEnd
    | fieldData => exact (absentBefore_iff isCommand_fieldData (hdata _)).mp hfirst

theorem graphicCall?_eq_some_iff_beginsWithCall {t m name : Text} :
    graphicCall? t = some (m, name) ↔ BeginsWithCall t m name := by
  rw [graphicCall?_eq_some_iff]
  have hcaret : ∀ rest, AtCaret (call name ++ rest) := by
    intro rest
    rw [call, List.append_assoc, List.append_assoc]
    exact isCommand_graphicCall.atCaret _
  constructor
  · rintro ⟨hfree, hname, rest, rfl⟩
    rw [List.append_assoc]
    exact ⟨⟨rest, rfl⟩, hname,
      (absentBefore_iff isCommand_fieldEnd (hcaret rest)).mpr (hfree _ (.fieldEnd _)),
      fun other hother => (absentBefore_iff (Stop.call hother).isCommand (hcaret rest)).mpr
        (hfree _ (.call hother))⟩
  · rintro ⟨⟨rest, rfl⟩, hname, hnoEnd, hfirst⟩
    refine ⟨fun p hp => ?_, hname, rest, by simp [call]⟩
    cases hp with
    | fieldEnd => exact (absentBefore_iff isCommand_fieldEnd (hcaret rest)).mp hnoEnd
    | fieldData hkind => exact absurd rfl hkind
    | call hother =>
        exact (absentBefore_iff (Stop.call hother).isCommand (hcaret rest)).mp (hfirst _ hother)

/-- **The recogniser finds exactly the statements of the grammar.** -/
theorem match?_eq_some_iff_begins {kind : FieldKind} {t : Text} {s : Statement} :
    match? kind t = some s ↔ s.kind = kind ∧ Begins t s := by
  constructor
  · intro h
    unfold match? at h
    obtain ⟨behind, hbehind, h⟩ := Option.bind_eq_some_iff.mp h
    obtain ⟨⟨x, y, rest⟩, hpair, h⟩ := Option.bind_eq_some_iff.mp h
    obtain ⟨⟨middle, value⟩, hmiddle, h⟩ := Option.bind_eq_some_iff.mp h
    obtain rfl := Option.some.inj h
    obtain rfl := after?_eq_some_iff.mp hbehind
    rw [coordinates?_eq_some_iff_beginsWithPair] at hpair
    refine ⟨rfl, ?_⟩
    cases kind with
    | image => exact .image hpair (graphicCall?_eq_some_iff_beginsWithCall.mp hmiddle)
    | text => exact .text hpair (payload?_eq_some_iff_beginsWithData.mp hmiddle)
    | barcode =>
        obtain ⟨lead, hlead, hmiddle⟩ := Option.bind_eq_some_iff.mp hmiddle
        obtain ⟨⟨m, v⟩, hpayload, hmiddle⟩ := Option.bind_eq_some_iff.mp hmiddle
        obtain ⟨rfl, rfl⟩ := Prod.mk.inj (Option.some.inj hmiddle)
        obtain ⟨⟨command, hcommand, orientation, hupper, rfl⟩, rest, rfl⟩ :=
          barcodeCommand?_eq_some_iff.mp hlead
        rw [List.drop_left] at hpayload
        exact .barcode hpair hcommand hupper (payload?_eq_some_iff_beginsWithData.mp hpayload)
  · rintro ⟨rfl, h⟩
    cases h with
    | image hpair hcall =>
        rw [← coordinates?_eq_some_iff_beginsWithPair] at hpair
        rw [← graphicCall?_eq_some_iff_beginsWithCall] at hcall
        simp [match?, FieldKind.opener, after?_eq_some_iff.mpr rfl, hpair, middleAndValue?, hcall]
    | text hpair hdata =>
        rw [← coordinates?_eq_some_iff_beginsWithPair] at hpair
        rw [← payload?_eq_some_iff_beginsWithData] at hdata
        simp [match?, FieldKind.opener, after?_eq_some_iff.mpr rfl, hpair, middleAndValue?, hdata]
    | @barcode t x y command rest middle value orientation hpair hcommand hupper hdata =>
        rw [← coordinates?_eq_some_iff_beginsWithPair] at hpair
        rw [← payload?_eq_some_iff_beginsWithData] at hdata
        have hlead : barcodeCommand? (command ++ [orientation, ','] ++ rest) =
            some (command ++ [orientation, ',']) :=
          barcodeCommand?_eq_some_iff.mpr
            ⟨⟨command, hcommand, orientation, hupper, rfl⟩, List.prefix_append _ _⟩
        simp only [match?, FieldKind.opener, after?_eq_some_iff.mpr rfl, hpair, middleAndValue?,
          hlead, List.drop_left, hdata, Option.bind_eq_bind, Option.bind_some]
        rfl

theorem standsAt_iff_match? {kind : FieldKind} {document : Text} {i : Nat} {s : Statement} :
    StandsAt kind document i s ↔ match? kind (document.drop i) = some s :=
  match?_eq_some_iff_begins.symm

/-- At one place stands one statement of a kind at most. -/
theorem StandsAt.unique {kind : FieldKind} {document : Text} {i : Nat} {s s' : Statement}
    (h : StandsAt kind document i s) (h' : StandsAt kind document i s') : s = s' := by
  rw [standsAt_iff_match?] at h h'
  exact Option.some.inj (h.symm.trans h')

end Statement

/-! ## Listing the statements -/

open Statement

/--
Some records list the statements of a kind from a place on: each is the first that starts no
earlier than the one before it ends, and their numbers go up by one. `ordinal` is the number of the
first of them, `offset` the place from which on statements are listed.
-/
inductive Enumerates (kind : FieldKind) (document : Text) : Nat → Nat → List Record → Prop where
  | done {ordinal offset : Nat} :
      (∀ i, offset ≤ i → ∀ s, ¬ StandsAt kind document i s) →
      Enumerates kind document ordinal offset []
  | next {ordinal offset : Nat} {r : Record} {rs : List Record} :
      offset ≤ r.start → StandsAt kind document r.start r.statement →
      (∀ i, offset ≤ i → i < r.start → ∀ s, ¬ StandsAt kind document i s) →
      r.ordinal = ordinal → Enumerates kind document (ordinal + 1) r.stop rs →
      Enumerates kind document ordinal offset (r :: rs)

namespace Enumerates

variable {kind : FieldKind} {document : Text}

/-- A place at which no statement stands can be passed over. -/
theorem of_succ {ordinal offset : Nat} {rs : List Record}
    (hno : ∀ s, ¬ StandsAt kind document offset s)
    (h : Enumerates kind document ordinal (offset + 1) rs) :
    Enumerates kind document ordinal offset rs := by
  cases h with
  | done hnone =>
      refine .done fun i hi => ?_
      rcases Nat.eq_or_lt_of_le hi with rfl | hlt
      · exact hno
      · exact hnone i hlt
  | next hle hat hleast hordinal hrest =>
      refine .next (by omega) hat (fun i hi hlt => ?_) hordinal hrest
      rcases Nat.eq_or_lt_of_le hi with rfl | hlt'
      · exact hno
      · exact hleast i hlt' hlt

/-- There is no more than one way to list the statements. -/
theorem unique {ordinal offset : Nat} {rs rs' : List Record}
    (h : Enumerates kind document ordinal offset rs)
    (h' : Enumerates kind document ordinal offset rs') : rs = rs' := by
  induction h generalizing rs' with
  | done hnone =>
      cases h' with
      | done => rfl
      | next hle hat _ _ _ => exact absurd hat (hnone _ hle _)
  | @next ordinal offset r rs hle hat hleast hordinal _ ih =>
      cases h' with
      | done hnone => exact absurd hat (hnone _ hle _)
      | @next _ _ r' rs' hle' hat' hleast' hordinal' hrest' =>
          -- each start is least, so neither comes before the other
          have hstart : r.start = r'.start := by
            rcases Nat.lt_trichotomy r.start r'.start with hlt | heq | hlt
            · exact absurd hat (hleast' _ hle hlt _)
            · exact heq
            · exact absurd hat' (hleast _ hle' hlt _)
          have hstatement : r.statement = r'.statement := hat.unique (hstart ▸ hat')
          obtain rfl : r = r' := by
            cases r
            cases r'
            simp only at hstart hstatement hordinal hordinal'
            rw [hstart, hstatement, hordinal, hordinal']
          rw [ih hrest']

/-- The scan lists the statements from any place on. -/
theorem recordsFrom_pieces {t : Text} {offset : Nat} (ht : document.drop offset = t)
    (ordinal : Nat) :
    Enumerates kind document ordinal offset
      (recordsFrom ordinal offset (pieces (recognise kind) t)) := by
  induction t using (exact_recognise kind).induction generalizing ordinal offset with
  | nil =>
      refine .done fun i hi s hat => ?_
      have hnil : document.drop i = [] := by
        rw [List.drop_eq_nil_iff] at ht ⊢
        omega
      rw [standsAt_iff_match?, hnil] at hat
      exact absurd ((match?_eq_some_iff.mp hat).2.2.length_le) (by
        have := s.length_pos
        rw [length_text]
        simp
        omega)
  | plain c cs hnone ih =>
      rw [pieces_of_none hnone, recordsFrom_plain]
      have hcs : document.drop (offset + 1) = cs := by
        rw [← List.drop_drop, ht, List.drop_one, List.tail_cons]
      refine (ih hcs ordinal).of_succ fun s hat => ?_
      rw [standsAt_iff_match?, ht] at hat
      rw [recognise_eq_none_iff, hat] at hnone
      exact absurd hnone (by simp)
  | hit t s n hsome ih =>
      obtain ⟨hpos, hle⟩ := exact_recognise kind _ _ _ hsome
      obtain ⟨hkind, hvalid, hpre, rfl⟩ := recognise_eq_some_iff.mp hsome
      have hraw : (t.take s.length).length = s.length := List.length_take_of_le hle
      rw [pieces_of_some hsome hpos hle, recordsFrom_hit, hraw]
      refine .next (Nat.le_refl _) ?_ (fun i hi hlt => absurd hlt (by simpa using hi)) rfl
        (ih ?_ (ordinal + 1))
      · rw [standsAt_iff_match?, ht]
        exact match?_eq_some_iff.mpr ⟨hkind, hvalid, hpre⟩
      · rw [Record.stop, ← List.drop_drop, ht]

end Enumerates

/--
**The records of a document are the statements of the grammar, from the left and without overlap.**

They list the statements of their kind, and nothing else does; and what stands between the
start and the stop of a record is its statement, character by character.
-/
theorem enumerates_iff_eq_records (kind : FieldKind) (document : Text) (rs : List Record) :
    (Enumerates kind document 0 0 rs ↔ rs = records kind document) ∧
      ∀ r ∈ records kind document,
        (document.drop r.start).take (r.stop - r.start) = r.statement.text := by
  refine ⟨⟨fun h => ?_, ?_⟩, fun r hr => ?_⟩
  · rw [records_eq]
    exact h.unique (Enumerates.recordsFrom_pieces rfl 0)
  · rintro rfl
    rw [records_eq]
    exact Enumerates.recordsFrom_pieces rfl 0
  · obtain ⟨before, after, rfl, hstart⟩ := exists_eq_append_of_mem_records hr
    have hlength : r.stop - r.start = r.statement.text.length := by
      rw [Record.stop, Nat.add_sub_cancel_left, length_text]
    rw [hstart, List.drop_left, ← hstart, hlength, List.take_left]

/-- An image whose first call lacks its comma, behind one that ends before its call. -/
theorem enumerates_of_retried_call :
    let document := "^FO1,2^FS^FO3,^XGa^XGb,1^FS".toList
    let r : Record := ⟨0, 9, ⟨.image, ['3'], [], ['^', 'X', 'G', 'a'], ['b']⟩⟩
    Enumerates .image document 0 0 [r] ∧
      (document.drop 9).take (r.stop - 9) = "^FO3,^XGa^XGb,".toList := by
  intro document r
  have hrecords : [r] = records .image document := by decide
  obtain ⟨henumerates, htext⟩ := enumerates_iff_eq_records .image document [r]
  exact ⟨henumerates.mpr hrecords, htext r (hrecords ▸ List.mem_singleton_self r)⟩

end LabelTemplate
