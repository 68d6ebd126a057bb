import LabelTemplate.Proofs.Text.Occurrence
import LabelTemplate.Statement.Recognise

/-!
# What the recogniser recognises

`match?` looks for a statement step by step. Here it is tied to a description of
statements that does not search: a statement is `Valid` if its parts have the right
characters and its middle holds none of the commands that would have ended the
search earlier. `match?_eq_some_iff` says that the recogniser finds exactly the valid
statement that the text begins with.

So a statement delimits itself: nothing behind its last character has a say in it.
That is what the scan lemmas rest on.
-/

namespace LabelTemplate.Statement

open Text Command

/-- Can this be the value of a statement of the kind? -/
def ValidValue : FieldKind → Text → Prop
  | .image, v => v ≠ [] ∧ ∀ c ∈ v, isName c = true
  | .barcode, v | .text, v => ¬ fieldEnd <:+: v

instance : (kind : FieldKind) → (v : Text) → Decidable (ValidValue kind v)
  | .image, v => inferInstanceAs (Decidable (v ≠ [] ∧ ∀ c ∈ v, isName c = true))
  | .barcode, v | .text, v => inferInstanceAs (Decidable (¬ fieldEnd <:+: v))

/-- What a statement of the kind must have directly behind its coordinates. -/
def IsLead : FieldKind → Text → Prop
  | .barcode, t => ∃ command ∈ [ean13, code128], ∃ orientation : Char,
      orientation.isUpper = true ∧ t = command ++ [orientation, ',']
  | .image, t | .text, t => t = []

/-- The commands at which the search behind the lead is over, one way or the other. -/
inductive Stop : FieldKind → Text → Prop where
  | fieldEnd (kind : FieldKind) : Stop kind fieldEnd
  | fieldData {kind : FieldKind} : kind ≠ .image → Stop kind fieldData
  | call {name : Text} : ValidValue .image name → Stop .image (graphicCall ++ name ++ [','])

/-- No command in this text ends the search. -/
def Free (kind : FieldKind) (t : Text) : Prop := ∀ p, Stop kind p → ¬ p <:+: t

/-- A statement that the recogniser finds when a text begins with it. -/
structure Valid (s : Statement) : Prop where
  /-- The first coordinate. -/
  x : ∀ c ∈ s.x, isCoordinate c = true
  /-- The second coordinate. -/
  y : ∀ c ∈ s.y, isCoordinate c = true
  /-- The second coordinate is as long as can be. -/
  boundary : ∀ c ∈ s.middle.head?, isCoordinate c = false
  /-- The middle is a lead and what the search passes over. -/
  middle : ∃ lead rest, s.middle = lead ++ rest ∧ IsLead s.kind lead ∧ Free s.kind rest
  /-- The value. -/
  value : ValidValue s.kind s.value

/-! ## Characters and commands of a statement -/

theorem validValue_iff {kind : FieldKind} (hkind : kind ≠ .image) {v : Text} :
    ValidValue kind v ↔ ¬ fieldEnd <:+: v := by
  cases kind with
  | image => exact absurd rfl hkind
  | barcode => rfl
  | text => rfl

theorem closer_eq {kind : FieldKind} (hkind : kind ≠ .image) : kind.closer = fieldEnd := by
  cases kind with
  | image => exact absurd rfl hkind
  | barcode => rfl
  | text => rfl

theorem dataCommand_eq {kind : FieldKind} (hkind : kind ≠ .image) :
    kind.dataCommand = fieldData := by
  cases kind with
  | image => exact absurd rfl hkind
  | barcode => rfl
  | text => rfl

theorem not_mem_of_isCoordinate {t : Text} (h : ∀ c ∈ t, isCoordinate c = true) : '^' ∉ t :=
  fun hc => absurd (h _ hc) (by decide)

theorem not_mem_of_isName {t : Text} (h : ∀ c ∈ t, isName c = true) : '^' ∉ t :=
  fun hc => absurd (h _ hc) (by decide)

theorem isCommand_opener (kind : FieldKind) : IsCommand kind.opener := by
  cases kind <;> exact ⟨_, rfl, by decide⟩

theorem isCommand_dataCommand (kind : FieldKind) : IsCommand kind.dataCommand := by
  cases kind <;> exact ⟨_, rfl, by decide⟩

theorem IsLead.isCommand {lead : Text} (h : IsLead .barcode lead) : IsCommand lead := by
  obtain ⟨command, hcommand, orientation, hupper, rfl⟩ := h
  have ho : orientation ≠ '^' := by rintro rfl; exact absurd hupper (by decide)
  simp only [List.mem_cons, List.not_mem_nil, or_false] at hcommand
  rcases hcommand with rfl | rfl <;>
    exact ⟨_, rfl, by simp [ho.symm]⟩

theorem IsLead.eq_nil_or_isCommand {kind : FieldKind} {lead : Text} (h : IsLead kind lead) :
    lead = [] ∨ kind = .barcode ∧ IsCommand lead := by
  cases kind with
  | image => exact Or.inl h
  | text => exact Or.inl h
  | barcode => exact Or.inr ⟨rfl, h.isCommand⟩

theorem Stop.isCommand {kind : FieldKind} {p : Text} (h : Stop kind p) : IsCommand p := by
  cases h with
  | fieldEnd => exact isCommand_fieldEnd
  | fieldData => exact isCommand_fieldData
  | call hname =>
      exact (isCommand_graphicCall.append (not_mem_of_isName hname.2)).append (by decide)

/-- A stop begins with the end of a statement or with the data command of the kind. -/
theorem Stop.exists_word {kind : FieldKind} {p : Text} (h : Stop kind p) :
    ∃ word ∈ [Command.fieldEnd, kind.dataCommand], word <+: p := by
  cases h with
  | fieldEnd => exact ⟨_, by simp, List.prefix_refl _⟩
  | fieldData hkind =>
      exact ⟨Command.fieldData, by simp [dataCommand_eq hkind], List.prefix_refl _⟩
  | call =>
      exact ⟨Command.graphicCall, by simp [FieldKind.dataCommand], by simp [List.append_assoc]⟩

theorem free_nil (kind : FieldKind) : Free kind [] := fun _ hp h =>
  hp.isCommand.ne_nil (List.infix_nil.mp h)

theorem Free.of_infix {kind : FieldKind} {t u : Text} (h : Free kind t) (hu : u <:+: t) :
    Free kind u := fun p hp h' => h p hp (h'.trans hu)

theorem free_cons_iff {kind : FieldKind} {c : Char} {t : Text} :
    Free kind (c :: t) ↔ (∀ p, Stop kind p → ¬ p <+: c :: t) ∧ Free kind t := by
  constructor
  · exact fun h => ⟨fun p hp h' => h p hp h'.isInfix, h.of_infix (List.infix_cons List.infix_rfl)⟩
  · rintro ⟨hhere, hthere⟩ p hp h
    rcases List.infix_cons_iff.mp h with h | h
    · exact hhere p hp h
    · exact hthere p hp h

/-- A text that is cut at a caret is free if both halves are. -/
theorem free_append {kind : FieldKind} {t u : Text} (ht : Free kind t) (hu : Free kind u)
    (hcaret : u = [] ∨ AtCaret u) : Free kind (t ++ u) := by
  intro p hp h
  rcases hcaret with rfl | hcaret
  · exact ht p hp (by simpa using h)
  · rcases (hp.isCommand.infix_append_iff hcaret).mp h with h | h
    · exact ht p hp h
    · exact hu p hp h

/-- A stop does not begin where a text free of stops does, however that text goes on. -/
theorem Free.not_prefix {kind : FieldKind} {p t r : Text} (h : Free kind t) (hp : Stop kind p)
    (ht : t ≠ []) (hr : AtCaret r) : ¬ p <+: t ++ r :=
  fun h' => h p hp ((hp.isCommand.prefix_append_iff ht hr).mp h').isInfix

/-- At a stop nothing free is left to pass over. -/
theorem Free.eq_nil_of_stop {kind : FieldKind} {p m d t : Text} (h : Free kind m) (hd : AtCaret d)
    (hp : Stop kind p) (hpt : p <+: t) (hpre : m ++ d <+: t) : m = [] := by
  cases m with
  | nil => rfl
  | cons b m =>
      rcases List.prefix_or_prefix_of_prefix hpt hpre with hin | ⟨rest, hrest⟩
      · exact absurd hin (h.not_prefix hp (by simp) hd)
      · -- the caret of the data would be a second one in the stop
        rw [List.append_assoc] at hrest
        exact absurd (List.mem_append_left rest hd.mem)
          (hp.isCommand.not_mem_of_append hrest.symm (by simp))

/-- A character at which no stop begins can be passed over. -/
theorem Free.cons_prefix {kind : FieldKind} {c : Char} {cs m d : Text}
    (hno : ∀ p, Stop kind p → ¬ p <+: c :: cs) (h : Free kind m) (hpre : m ++ d <+: cs) :
    Free kind (c :: m) ∧ c :: m ++ d <+: c :: cs := by
  have hcons : c :: m ++ d <+: c :: cs := (List.prefix_cons_inj c).mpr hpre
  exact ⟨free_cons_iff.mpr ⟨fun p hp hin =>
    hno p hp (hin.trans ((List.prefix_append _ d).trans hcons)), h⟩, hcons⟩

/-- Where no stop begins, data that begin with one stand further on. -/
theorem Free.exists_cons {kind : FieldKind} {c : Char} {cs m d p : Text}
    (hno : ∀ p, Stop kind p → ¬ p <+: c :: cs) (hp : Stop kind p) (hpd : p <+: d)
    (h : Free kind m) (hpre : m ++ d <+: c :: cs) :
    ∃ m', m = c :: m' ∧ Free kind m' ∧ m' ++ d <+: cs := by
  cases m with
  | nil => exact absurd (hpd.trans hpre) (hno p hp)
  | cons b m =>
      rw [List.cons_append, List.cons_prefix_cons] at hpre
      obtain ⟨rfl, hpre⟩ := hpre
      exact ⟨m, rfl, (free_cons_iff.mp h).2, hpre⟩

/-- A search that goes on puts the character in front of what is found further on. -/
theorem map_cons_eq_some_iff {c : Char} {found : Option (Text × Text)} {m v : Text} :
    found.map (fun (middle, value) => (c :: middle, value)) = some (m, v) ↔
      ∃ m', m = c :: m' ∧ found = some (m', v) := by
  rw [Option.map_eq_some_iff]
  constructor
  · rintro ⟨⟨m', v'⟩, h, heq⟩
    obtain ⟨rfl, rfl⟩ := Prod.mk.inj heq
    exact ⟨m', rfl, h⟩
  · rintro ⟨m', rfl, h⟩
    exact ⟨(m', v), h, rfl⟩

/-! ## Coordinates -/

theorem after?_eq_some_iff {p t u : Text} : after? p t = some u ↔ t = p ++ u := by
  unfold after?
  constructor
  · intro h
    split at h
    · rename_i hpre
      obtain ⟨r, rfl⟩ := List.isPrefixOf_iff_prefix.mp hpre
      simpa using h
    · exact absurd h (by simp)
  · rintro rfl
    simp

theorem after?_eq_none_iff {p t : Text} : after? p t = none ↔ ¬ p <+: t := by
  simp [after?]

/-- A run of characters is found as long as it is when another character follows. -/
theorem takeWhile_append_of_head {p : Char → Bool} {run : Text} (rest : Text)
    (hrun : ∀ c ∈ run, p c = true) (hrest : ∀ c ∈ rest.head?, p c = false) :
    (run ++ rest).takeWhile p = run ∧ (run ++ rest).dropWhile p = rest := by
  rw [List.takeWhile_append_of_pos hrun, List.dropWhile_append_of_pos hrun]
  cases rest with
  | nil => simp
  | cons c cs => simp [hrest c rfl]

theorem of_mem_takeWhile {p : Char → Bool} {t : Text} : ∀ c ∈ t.takeWhile p, p c = true :=
  List.all_eq_true.mp List.all_takeWhile

theorem head?_dropWhile_not {p : Char → Bool} {t : Text} :
    ∀ c ∈ (t.dropWhile p).head?, p c = false := by
  intro c hc
  have h := List.head?_dropWhile_not p t
  rw [hc] at h
  simpa using h

theorem coordinates?_eq_some_iff {t x y rest : Text} :
    coordinates? t = some (x, y, rest) ↔
      t = x ++ ',' :: (y ++ rest) ∧ (∀ c ∈ x, isCoordinate c = true) ∧
        (∀ c ∈ y, isCoordinate c = true) ∧ ∀ c ∈ rest.head?, isCoordinate c = false := by
  unfold coordinates?
  constructor
  · intro h
    split at h
    · rename_i behind hbehind
      simp only [Option.some.injEq, Prod.mk.injEq] at h
      obtain ⟨rfl, rfl, rfl⟩ := h
      refine ⟨?_, of_mem_takeWhile, of_mem_takeWhile,
        head?_dropWhile_not⟩
      rw [List.takeWhile_append_dropWhile, ← hbehind, List.takeWhile_append_dropWhile]
    · exact absurd h (by simp)
  · rintro ⟨rfl, hx, hy, hrest⟩
    obtain ⟨htake, hdrop⟩ := takeWhile_append_of_head (',' :: (y ++ rest)) hx
      (by intro c hc; obtain rfl := Option.some.inj hc; decide)
    obtain ⟨htake', hdrop'⟩ := takeWhile_append_of_head rest hy hrest
    rw [hdrop, htake]
    simp [htake', hdrop']

/-! ## The data of a text or a bar code -/

/-- Behind a data command the search is over: the data ends where the statement does. -/
theorem payload?_of_fieldData {t rest : Text} (ht : t = fieldData ++ rest) :
    payload? t = (cut? fieldEnd rest).map fun (value, _) => ([], value) := by
  subst ht
  have hstop : splitBefore atDataOrEnd (fieldData ++ rest) = ([], fieldData ++ rest) := by
    simp [splitBefore, fieldData, atDataOrEnd]
  unfold payload?
  rw [hstop]
  simp only [after?_eq_some_iff.mpr rfl, Option.bind_eq_bind, Option.bind_some]
  cases cut? fieldEnd rest <;> rfl

/-- A statement that ends before its data has none. -/
theorem payload?_of_fieldEnd {t rest : Text} (ht : t = fieldEnd ++ rest) : payload? t = none := by
  subst ht
  have hstop : splitBefore atDataOrEnd (fieldEnd ++ rest) = ([], fieldEnd ++ rest) := by
    simp [splitBefore, fieldEnd, atDataOrEnd]
  have hdata : ¬ fieldData <+: fieldEnd ++ rest := by simp [fieldData, fieldEnd]
  unfold payload?
  rw [hstop]
  simp only [after?_eq_none_iff.mpr hdata]
  rfl

theorem payload?_cons {c : Char} {cs : Text} (hdata : ¬ fieldData <+: c :: cs)
    (hend : ¬ fieldEnd <+: c :: cs) :
    payload? (c :: cs) = (payload? cs).map fun (middle, value) => (c :: middle, value) := by
  have hstop : atDataOrEnd (c :: cs) = false := by
    rw [atDataOrEnd, Bool.or_eq_false_iff]
    exact ⟨Bool.eq_false_iff.mpr fun h => hdata (List.isPrefixOf_iff_prefix.mp h),
      Bool.eq_false_iff.mpr fun h => hend (List.isPrefixOf_iff_prefix.mp h)⟩
  unfold payload?
  rw [splitBefore]
  simp only [hstop, Bool.false_eq_true, if_false]
  cases after? fieldData (splitBefore atDataOrEnd cs).2 with
  | none => rfl
  | some behind =>
      simp only [Option.bind_eq_bind, Option.bind_some]
      cases cut? fieldEnd behind <;> rfl

/-- The payload is what stands between the first data command and the first end behind it. -/
theorem payload?_eq_some_iff {kind : FieldKind} (hkind : kind ≠ .image) {t m v : Text} :
    payload? t = some (m, v) ↔
      Free kind m ∧ ¬ fieldEnd <:+: v ∧ m ++ (fieldData ++ (v ++ fieldEnd)) <+: t := by
  have hcaret : AtCaret (fieldData ++ (v ++ fieldEnd)) := isCommand_fieldData.atCaret _
  have hstop : Stop kind fieldData := .fieldData hkind
  induction t generalizing m with
  | nil => simp [payload?, splitBefore, after?, fieldData]
  | cons c cs ih =>
      by_cases hdata : fieldData <+: c :: cs
      · -- the data begin here, and end at the first end of a statement
        obtain ⟨rest, hrest⟩ := hdata
        rw [payload?_of_fieldData hrest.symm, ← hrest]
        constructor
        · intro h
          obtain ⟨⟨value, after⟩, hcut, hmv⟩ := Option.map_eq_some_iff.mp h
          obtain ⟨rfl, rfl⟩ := Prod.mk.inj hmv
          obtain ⟨rfl, hno⟩ := (cut?_eq_some_iff isCommand_fieldEnd).mp hcut
          exact ⟨free_nil kind, hno, after, by simp⟩
        · rintro ⟨hfree, hno, hpre⟩
          obtain rfl := hfree.eq_nil_of_stop hcaret hstop (List.prefix_append _ rest) hpre
          rw [List.nil_append, List.prefix_append_right_inj] at hpre
          obtain ⟨after, hafter⟩ := hpre
          rw [(cut?_eq_some_iff isCommand_fieldEnd).mpr ⟨hafter.symm, hno⟩]
          rfl
      · by_cases hend : fieldEnd <+: c :: cs
        · -- the statement ends before its data
          obtain ⟨rest, hrest⟩ := hend
          rw [payload?_of_fieldEnd hrest.symm]
          refine ⟨fun h => absurd h (by simp), ?_⟩
          rintro ⟨hfree, _, hpre⟩
          obtain rfl := hfree.eq_nil_of_stop hcaret (.fieldEnd kind) ⟨rest, hrest⟩ hpre
          rw [List.nil_append] at hpre
          exact absurd ((List.prefix_append _ _).trans hpre) hdata
        · have hno : ∀ p, Stop kind p → ¬ p <+: c :: cs := by
            intro p hp
            cases hp with
            | fieldEnd => exact hend
            | fieldData => exact hdata
            | call => exact absurd rfl hkind
          rw [payload?_cons hdata hend, map_cons_eq_some_iff]
          constructor
          · rintro ⟨m', rfl, h⟩
            obtain ⟨hfree, hvalue, hpre⟩ := ih.mp h
            obtain ⟨hfree, hpre⟩ := hfree.cons_prefix hno hpre
            exact ⟨hfree, hvalue, hpre⟩
          · rintro ⟨hfree, hvalue, hpre⟩
            obtain ⟨m', rfl, hfree, hpre⟩ :=
              hfree.exists_cons hno hstop (List.prefix_append _ _) hpre
            exact ⟨m', rfl, ih.mpr ⟨hfree, hvalue, hpre⟩⟩

/-! ## The graphic call of an image -/

theorem calledName?_eq_some_iff {t name : Text} :
    calledName? t = some name ↔
      ValidValue .image name ∧ graphicCall ++ name ++ [','] <+: t := by
  unfold calledName?
  cases hafter : after? graphicCall t with
  | none =>
      refine ⟨fun h => absurd h (by simp), ?_⟩
      rintro ⟨_, hpre⟩
      rw [List.append_assoc] at hpre
      exact absurd ((List.prefix_append _ _).trans hpre) (after?_eq_none_iff.mp hafter)
  | some behind =>
      rw [after?_eq_some_iff] at hafter
      subst hafter
      rw [List.append_assoc, List.prefix_append_right_inj]
      constructor
      · intro h
        dsimp only at h
        split at h
        · rename_i c run rest htake hdrop
          obtain rfl := Option.some.inj h
          refine ⟨⟨by simp, htake ▸ of_mem_takeWhile⟩, rest, ?_⟩
          rw [← htake, List.append_assoc, List.singleton_append, ← hdrop,
            List.takeWhile_append_dropWhile]
        · exact absurd h (by simp)
      · rintro ⟨⟨hne, hname⟩, rest, rfl⟩
        obtain ⟨htake, hdrop⟩ := takeWhile_append_of_head (',' :: rest) hname
          (by intro c hc; obtain rfl := Option.some.inj hc; decide)
        dsimp only
        rw [List.append_assoc, List.singleton_append, htake, hdrop]
        cases name with
        | nil => exact absurd rfl hne
        | cons c name => rfl

/-- The call is the first complete one, and the statement does not end before it. -/
theorem graphicCall?_eq_some_iff {t m v : Text} :
    graphicCall? t = some (m, v) ↔
      Free .image m ∧ ValidValue .image v ∧ m ++ (graphicCall ++ v ++ [',']) <+: t := by
  have hcaret : AtCaret (graphicCall ++ v ++ [',']) := by
    rw [List.append_assoc]; exact isCommand_graphicCall.atCaret _
  induction t generalizing m with
  | nil => simp [graphicCall?]
  | cons c cs ih =>
      rw [graphicCall?]
      by_cases hend : fieldEnd <+: c :: cs
      · -- the statement ends before any call
        rw [if_pos (List.isPrefixOf_iff_prefix.mpr hend)]
        refine ⟨fun h => absurd h (by simp), ?_⟩
        rintro ⟨hfree, hname, hpre⟩
        obtain rfl := hfree.eq_nil_of_stop hcaret (.fieldEnd _) hend hpre
        obtain rfl := (List.cons_prefix_cons.mp hpre).1
        exact absurd hpre (by obtain ⟨rest, hrest⟩ := hend; simp [← hrest, fieldEnd, graphicCall])
      · rw [if_neg (by simpa using hend)]
        cases hcall : calledName? (c :: cs) with
        | some name =>
            -- the call begins here, and its name ends at the comma
            obtain ⟨hname, hpre⟩ := calledName?_eq_some_iff.mp hcall
            constructor
            · intro h
              obtain ⟨rfl, rfl⟩ := Prod.mk.inj (Option.some.inj h)
              exact ⟨free_nil _, hname, hpre⟩
            · rintro ⟨hfree, hname', hpre'⟩
              obtain rfl := hfree.eq_nil_of_stop hcaret (.call hname) hpre hpre'
              rw [calledName?_eq_some_iff.mpr ⟨hname', hpre'⟩] at hcall
              rw [Option.some.inj hcall]
        | none =>
            have hno : ∀ p, Stop .image p → ¬ p <+: c :: cs := by
              intro p hp hin
              cases hp with
              | fieldEnd => exact hend hin
              | fieldData hkind => exact hkind rfl
              | call hname =>
                  rw [calledName?_eq_some_iff.mpr ⟨hname, hin⟩] at hcall
                  exact absurd hcall (by simp)
            dsimp only
            rw [map_cons_eq_some_iff]
            constructor
            · rintro ⟨m', rfl, h⟩
              obtain ⟨hfree, hname, hpre⟩ := ih.mp h
              obtain ⟨hfree, hpre⟩ := hfree.cons_prefix hno hpre
              exact ⟨hfree, hname, hpre⟩
            · rintro ⟨hfree, hname, hpre⟩
              obtain ⟨m', rfl, hfree, hpre⟩ :=
                hfree.exists_cons hno (.call hname) (List.prefix_refl _) hpre
              exact ⟨m', rfl, ih.mpr ⟨hfree, hname, hpre⟩⟩

/-! ## The lead of a bar code -/

theorem barcodeCommand?_eq_some_iff {t lead : Text} :
    barcodeCommand? t = some lead ↔ IsLead .barcode lead ∧ lead <+: t := by
  constructor
  · intro h
    unfold barcodeCommand? at h
    obtain ⟨behind, hbehind, h⟩ := Option.bind_eq_some_iff.mp h
    split at h
    · rename_i orientation rest
      split at h
      · rename_i hupper
        obtain rfl := Option.some.inj h
        rcases Option.or_eq_some_iff.mp hbehind with hafter | ⟨_, hafter⟩
        all_goals
          rw [after?_eq_some_iff] at hafter
          subst hafter
        · exact ⟨⟨ean13, by simp, orientation, hupper, rfl⟩, List.take_prefix _ _⟩
        · exact ⟨⟨code128, by simp, orientation, hupper, rfl⟩, List.take_prefix _ _⟩
      · exact absurd h (by simp)
    · exact absurd h (by simp)
  · rintro ⟨⟨command, hcommand, orientation, hupper, rfl⟩, rest, rfl⟩
    simp only [List.mem_cons, List.not_mem_nil, or_false] at hcommand
    rcases hcommand with rfl | rfl <;>
      simp [barcodeCommand?, after?, ean13, code128, hupper]

/-! ## The recogniser -/

/-- Images and texts need nothing directly behind the coordinates. -/
theorem exists_lead_iff {kind : FieldKind} (hkind : kind ≠ .barcode) {m : Text} :
    (∃ lead rest, m = lead ++ rest ∧ IsLead kind lead ∧ Free kind rest) ↔ Free kind m := by
  have hnil : ∀ lead, IsLead kind lead ↔ lead = [] := by
    intro lead
    cases kind with
    | barcode => exact absurd rfl hkind
    | image => rfl
    | text => rfl
  constructor
  · rintro ⟨lead, rest, rfl, hlead, hfree⟩
    obtain rfl := (hnil lead).mp hlead
    exact hfree
  · exact fun h => ⟨[], m, rfl, (hnil []).mpr rfl, h⟩

theorem middleAndValue?_eq_some_iff {kind : FieldKind} {t m v : Text} :
    middleAndValue? kind t = some (m, v) ↔
      (∃ lead rest, m = lead ++ rest ∧ IsLead kind lead ∧ Free kind rest) ∧
        ValidValue kind v ∧ m ++ (kind.dataCommand ++ (v ++ kind.closer)) <+: t := by
  cases kind with
  | image =>
      rw [middleAndValue?, graphicCall?_eq_some_iff, exists_lead_iff (by decide), List.append_assoc]
      rfl
  | text =>
      have hkind : FieldKind.text ≠ .image := by decide
      rw [middleAndValue?, payload?_eq_some_iff hkind, exists_lead_iff (by decide)]
      rfl
  | barcode =>
      have hkind : FieldKind.barcode ≠ .image := by decide
      unfold middleAndValue?
      constructor
      · intro h
        obtain ⟨lead, hcommand, h⟩ := Option.bind_eq_some_iff.mp h
        obtain ⟨⟨middle, value⟩, hpayload, h⟩ := Option.bind_eq_some_iff.mp h
        obtain ⟨rfl, rfl⟩ := Prod.mk.inj (Option.some.inj h)
        obtain ⟨hlead, rest, rfl⟩ := barcodeCommand?_eq_some_iff.mp hcommand
        rw [List.drop_left] at hpayload
        obtain ⟨hfree, hno, hpre⟩ := (payload?_eq_some_iff hkind).mp hpayload
        refine ⟨⟨lead, middle, rfl, hlead, hfree⟩, hno, ?_⟩
        rw [List.append_assoc, List.prefix_append_right_inj]
        exact hpre
      · rintro ⟨⟨lead, middle, rfl, hlead, hfree⟩, hno, hpre⟩
        rw [List.append_assoc] at hpre
        have hleads : lead <+: t := (List.prefix_append _ _).trans hpre
        obtain ⟨rest, rfl⟩ := hleads
        rw [List.prefix_append_right_inj] at hpre
        rw [barcodeCommand?_eq_some_iff.mpr ⟨hlead, List.prefix_append _ _⟩]
        simp only [Option.bind_eq_bind, Option.bind_some, List.drop_left,
          (payload?_eq_some_iff hkind).mpr ⟨hfree, hno, hpre⟩]
        rfl

theorem text_eq (s : Statement) :
    s.text = s.kind.opener ++ (s.x ++ ',' :: (s.y ++
      (s.middle ++ (s.kind.dataCommand ++ (s.value ++ s.kind.closer))))) := by
  simp [text, coordinates]

theorem length_text (s : Statement) : s.text.length = s.length := by
  simp only [text_eq, length, valueEnd, valueStart, dataStart, coordinatesEnd, coordinatesStart,
    coordinates, List.length_append, List.length_cons]
  omega

/-- What follows the coordinates begins with no coordinate character, if the statement is valid. -/
theorem Valid.boundary_append {s : Statement} (hs : s.Valid) (r : Text) :
    ∀ c ∈ (s.middle ++ (s.kind.dataCommand ++ r)).head?, isCoordinate c = false := by
  intro c hc
  have h := hs.boundary
  cases hm : s.middle with
  | nil =>
      -- the caret of the data command is no coordinate character
      obtain ⟨u, hu⟩ := (isCommand_dataCommand s.kind).atCaret r
      rw [hm, List.nil_append, hu] at hc
      obtain rfl := Option.some.inj hc
      decide
  | cons d m =>
      rw [hm] at hc h
      exact h c hc

/--
**The recogniser finds exactly the valid statements.**

`match?` succeeds where, and only where, the text begins with a valid statement of
the kind, and that statement is what it gives back.
-/
theorem match?_eq_some_iff {kind : FieldKind} {t : Text} {s : Statement} :
    match? kind t = some s ↔ s.kind = kind ∧ s.Valid ∧ s.text <+: t := by
  unfold match?
  constructor
  · intro h
    obtain ⟨behind, hbehind, h⟩ := Option.bind_eq_some_iff.mp h
    obtain ⟨⟨x, y, rest⟩, hcoordinates, h⟩ := Option.bind_eq_some_iff.mp h
    obtain ⟨⟨middle, value⟩, hmiddle, h⟩ := Option.bind_eq_some_iff.mp h
    obtain rfl := Option.some.inj h
    obtain rfl := after?_eq_some_iff.mp hbehind
    obtain ⟨rfl, hx, hy, hrest⟩ := coordinates?_eq_some_iff.mp hcoordinates
    obtain ⟨hparts, hvalue, after, rfl⟩ := middleAndValue?_eq_some_iff.mp hmiddle
    refine ⟨rfl, ⟨hx, hy, ?_, hparts, hvalue⟩, after, by simp [text_eq]⟩
    intro c hc
    -- what follows the coordinates begins as the middle does
    refine hrest c ?_
    cases middle with
    | nil => exact absurd hc (by simp)
    | cons d m => exact hc
  · rintro ⟨rfl, hs, after, rfl⟩
    have hcoordinates := coordinates?_eq_some_iff.mpr
      ⟨rfl, hs.x, hs.y, hs.boundary_append (s.value ++ (s.kind.closer ++ after))⟩
    have hmiddle := middleAndValue?_eq_some_iff.mpr ⟨hs.middle, hs.value,
      (⟨after, by simp only [List.append_assoc]⟩ :
        _ <+: s.middle ++ (s.kind.dataCommand ++ (s.value ++ (s.kind.closer ++ after))))⟩
    have hsplit : s.text ++ after = s.kind.opener ++ (s.x ++ ',' :: (s.y ++
        (s.middle ++ (s.kind.dataCommand ++ (s.value ++ (s.kind.closer ++ after)))))) := by
      simp [text_eq]
    rw [hsplit, after?_eq_some_iff.mpr rfl]
    simp only [Option.bind_eq_bind, Option.bind_some, hcoordinates, hmiddle]
    rfl

end LabelTemplate.Statement
