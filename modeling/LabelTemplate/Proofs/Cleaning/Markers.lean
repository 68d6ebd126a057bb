import LabelTemplate.Cleaning
import LabelTemplate.Proofs.Printer.Reading
import LabelTemplate.Proofs.Statement.Replacement

/-!
# Statements with their missing markers

A hex marker is put in front of a data command and nowhere else. Nothing that the recogniser looks
for begins with a marker, and none of it ends at a data command but the middle. So to recognise a
statement and to put markers in commute (`match?_addMarkers`): the statement is found with the
marker at the end of its middle, and with markers in its value if there are data commands in it.

From this the statements of a document correspond one to one to those of the document with
markers (`forall₂_found_addMarkers`).
-/

namespace LabelTemplate.Cleaning

open Text Command Scan Statement

/-- What is put in front of a data command behind a text; that text is read backwards. -/
def missingMarker (seen : Text) : Text := if endsWithMarker seen then [] else hexMarker

/-! ## Putting markers in, command by command -/

@[simp] theorem addMarkers_nil (seen : Text) : addMarkers seen [] = [] := rfl

theorem addMarkers_eq (seen : Text) (c : Char) (cs : Text) :
    addMarkers seen (c :: cs) =
      (if Command.fieldData <+: c :: cs then missingMarker seen else []) ++
        c :: addMarkers (c :: seen) cs := by
  rw [addMarkers, missingMarker]
  by_cases h : Command.fieldData <+: c :: cs
  · rw [if_pos h, List.isPrefixOf_iff_prefix.mpr h]
    cases endsWithMarker seen <;> rfl
  · rw [if_neg h, Bool.eq_false_iff.mpr fun hpre => h (List.isPrefixOf_iff_prefix.mp hpre)]
    rfl

theorem addMarkers_cons {c : Char} {cs : Text} (h : ¬ Command.fieldData <+: c :: cs)
    (seen : Text) : addMarkers seen (c :: cs) = c :: addMarkers (c :: seen) cs := by
  rw [addMarkers_eq, if_neg h]
  rfl

/-- Characters that are no caret stay as they are. -/
theorem addMarkers_append_of_not_mem {w : Text} (hw : '^' ∉ w) (seen z : Text) :
    addMarkers seen (w ++ z) = w ++ addMarkers (w.reverse ++ seen) z := by
  induction w generalizing seen with
  | nil => rfl
  | cons c w ih =>
      rw [List.mem_cons, not_or] at hw
      rw [List.cons_append, addMarkers_cons, ih hw.2]
      · simp
      · exact fun h => hw.1 (List.cons_prefix_cons.mp h).1

/-- A command that is no data command stays as it is. -/
theorem addMarkers_command {p z : Text} (hp : IsCommand p) (h : ¬ Command.fieldData <+: p ++ z)
    (seen : Text) : addMarkers seen (p ++ z) = p ++ addMarkers (p.reverse ++ seen) z := by
  obtain ⟨name, rfl, hname⟩ := hp
  rw [List.cons_append] at h ⊢
  rw [addMarkers_cons h, addMarkers_append_of_not_mem hname]
  simp

theorem addMarkers_fieldData (seen z : Text) :
    addMarkers seen (Command.fieldData ++ z) = missingMarker seen ++
      (Command.fieldData ++ addMarkers (Command.fieldData.reverse ++ seen) z) := by
  have hname : '^' ∉ ['F', 'D'] := by decide
  have hhere : Command.fieldData <+: '^' :: (['F', 'D'] ++ z) := List.prefix_append _ _
  change addMarkers seen ('^' :: (['F', 'D'] ++ z)) = _
  rw [addMarkers_eq, if_pos hhere, addMarkers_append_of_not_mem hname]
  rfl

/-- In front of a caret a text gets the markers that it would get by itself. -/
theorem addMarkers_append {z : Text} (hz : AtCaret z) (seen w : Text) :
    addMarkers seen (w ++ z) = addMarkers seen w ++ addMarkers (w.reverse ++ seen) z := by
  induction w generalizing seen with
  | nil => rfl
  | cons c w ih =>
      have hiff := isCommand_fieldData.prefix_append_iff (List.cons_ne_nil c w) hz
      rw [List.cons_append] at hiff
      rw [List.cons_append, addMarkers_eq, addMarkers_eq, ih]
      simp [hiff]

/-- Where no data command is, no marker is missing. -/
theorem addMarkers_eq_self {t : Text} (h : ¬ Command.fieldData <:+: t) (seen : Text) :
    addMarkers seen t = t := by
  induction t generalizing seen with
  | nil => rfl
  | cons c t ih =>
      rw [List.infix_cons_iff, not_or] at h
      rw [addMarkers_cons h.1, ih h.2]

/-! ## What is found at the beginning of a text with markers -/

theorem head?_addMarkers (seen t : Text) : (addMarkers seen t).head? = t.head? := by
  cases t with
  | nil => rfl
  | cons c cs =>
      rw [addMarkers_eq, missingMarker]
      split
      · rename_i h
        -- a marker begins with the same caret
        rw [← (List.cons_prefix_cons.mp h).1]
        split <;> rfl
      · rfl

/-- A run of characters that are no caret is as long as before. -/
theorem span_addMarkers {p : Char → Bool} (hp : p '^' = false) (seen t : Text) :
    (addMarkers seen t).takeWhile p = t.takeWhile p ∧
      (addMarkers seen t).dropWhile p =
        addMarkers ((t.takeWhile p).reverse ++ seen) (t.dropWhile p) := by
  have hrun : ∀ c ∈ t.takeWhile p, p c = true := of_mem_takeWhile
  have hcaret : '^' ∉ t.takeWhile p := fun h => by
    have := hrun _ h
    rw [hp] at this
    exact absurd this (by decide)
  nth_rewrite 1 3 [← List.takeWhile_append_dropWhile (p := p) (l := t)]
  rw [addMarkers_append_of_not_mem hcaret]
  refine takeWhile_append_of_head _ hrun ?_
  rw [head?_addMarkers]
  exact head?_dropWhile_not

theorem prefix_addMarkers_iff {name : Text} (hname : '^' ∉ name) (seen t : Text) :
    name <+: addMarkers seen t ↔ name <+: t := by
  induction name generalizing seen t with
  | nil => simp
  | cons d name ih =>
      rw [List.mem_cons, not_or] at hname
      cases t with
      | nil => simp
      | cons c cs =>
          by_cases hc : c = d
          · subst hc
            rw [addMarkers_cons (fun h => hname.1 (List.cons_prefix_cons.mp h).1),
              List.prefix_cons_inj, List.prefix_cons_inj, ih hname.2]
          · obtain ⟨u, hu⟩ := List.head?_eq_some_iff.mp (head?_addMarkers seen (c :: cs))
            rw [hu, List.cons_prefix_cons, List.cons_prefix_cons]
            simp [Ne.symm hc]

/-- Markers hide no command and bring none in, but for the two that they are about. -/
theorem headed_prefix_addMarkers_iff {word p : Text} (h : Headed word p)
    (hword : word ∉ [Command.fieldData, hexMarker]) (seen t : Text) :
    p <+: addMarkers seen t ↔ p <+: t := by
  have hother : ∀ {q z : Text}, q ∈ [Command.fieldData, hexMarker] → ¬ q <+: p ++ z := by
    intro q z hq hpre
    refine hword (h.eq_of_prefix ?_ hpre ▸ hq)
    simp only [List.mem_cons, List.not_mem_nil, or_false] at hq
    rcases hq with rfl | rfl <;> rfl
  constructor
  · intro hpre
    cases t with
    | nil => exact hpre
    | cons c cs =>
        by_cases hdata : Command.fieldData <+: c :: cs
        · -- the text begins with the data command or with its marker
          obtain ⟨z, hz⟩ := hdata
          obtain ⟨r, hr⟩ := hpre
          rw [← hz, addMarkers_fieldData, missingMarker] at hr
          split at hr
          · exact absurd ⟨_, hr.symm⟩ (hother (q := Command.fieldData) (by simp))
          · exact absurd ⟨_, hr.symm⟩ (hother (q := hexMarker) (by simp))
        · obtain ⟨name, rfl, hname⟩ := h.isCommand
          rw [addMarkers_cons hdata, List.cons_prefix_cons] at hpre
          rw [List.cons_prefix_cons]
          exact ⟨hpre.1, (prefix_addMarkers_iff hname _ _).mp hpre.2⟩
  · rintro ⟨z, rfl⟩
    rw [addMarkers_command h.isCommand (hother (by simp))]
    exact List.prefix_append _ _

theorem after?_addMarkers {word p : Text} (h : Headed word p)
    (hword : word ∉ [Command.fieldData, hexMarker]) (seen t : Text) :
    after? p (addMarkers seen t) = (after? p t).map (addMarkers (p.reverse ++ seen)) := by
  cases hafter : after? p t with
  | none =>
      rw [after?_eq_none_iff] at hafter
      rw [Option.map_none, after?_eq_none_iff, headed_prefix_addMarkers_iff h hword]
      exact hafter
  | some z =>
      rw [after?_eq_some_iff] at hafter
      have hdata : ¬ Command.fieldData <+: p ++ z := fun hpre =>
        hword (by simp [h.eq_of_prefix rfl hpre])
      rw [hafter, addMarkers_command h.isCommand hdata, Option.map_some, after?_eq_some_iff]

/-! ## The parts of a statement -/

theorem coordinates?_addMarkers (seen t : Text) :
    coordinates? (addMarkers seen t) = (coordinates? t).map fun (x, y, rest) =>
      (x, y, addMarkers ((x ++ ',' :: y).reverse ++ seen) rest) := by
  have hcaret : isCoordinate '^' = false := by decide
  obtain ⟨hx, hbehind⟩ := span_addMarkers hcaret seen t
  unfold coordinates?
  rw [hx, hbehind]
  cases hdrop : t.dropWhile isCoordinate with
  | nil => rfl
  | cons c cs =>
      by_cases hc : c = ','
      · subst hc
        rw [addMarkers_cons (by simp [Command.fieldData])]
        obtain ⟨hy, hrest⟩ :=
          span_addMarkers hcaret (',' :: ((t.takeWhile isCoordinate).reverse ++ seen)) cs
        simp only [hy, hrest, Option.map_some]
        simp
      · obtain ⟨u, hu⟩ := List.head?_eq_some_iff.mp
          (head?_addMarkers ((t.takeWhile isCoordinate).reverse ++ seen) (c :: cs))
        rw [hu]
        simp [hc]

/-- In front of a character nothing but a marker is put in, so a command begins there as before. -/
theorem prefix_cons_addMarkers_iff {p : Text} (hp : IsCommand p) (seen : Text) (c : Char)
    (cs : Text) : p <+: c :: addMarkers (c :: seen) cs ↔ p <+: c :: cs := by
  obtain ⟨name, rfl, hname⟩ := hp
  rw [List.cons_prefix_cons, List.cons_prefix_cons, prefix_addMarkers_iff hname]

/-- Markers break no command up and bring none in, but for the two that they are about. -/
theorem headed_infix_addMarkers_iff {word p : Text} (h : Headed word p)
    (hword : word ∉ [Command.fieldData, hexMarker]) (seen t : Text) :
    p <:+: addMarkers seen t ↔ p <:+: t := by
  induction t generalizing seen with
  | nil => rfl
  | cons c cs ih =>
      have hmarker : ∀ z, p <:+: hexMarker ++ z ↔ p <:+: z :=
        fun z => h.isCommand.infix_command_append_iff isCommand_hexMarker fun hpre =>
          hword (by simp [headed_hexMarker.eq_of_prefix h.three (h.begins.trans hpre)])
      have hbehind : p <:+: c :: addMarkers (c :: seen) cs ↔ p <:+: c :: cs := by
        rw [List.infix_cons_iff, List.infix_cons_iff, prefix_cons_addMarkers_iff h.isCommand, ih]
      rw [addMarkers_eq, missingMarker]
      split
      · split
        · exact hbehind
        · rw [hmarker]
          exact hbehind
      · exact hbehind

/-- The end of a statement is found where it was. -/
theorem cut?_fieldEnd_addMarkers (seen t : Text) :
    cut? Command.fieldEnd (addMarkers seen t) = (cut? Command.fieldEnd t).map fun (value, rest) =>
      (addMarkers seen value,
        addMarkers ((value ++ Command.fieldEnd).reverse ++ seen) rest) := by
  cases hcut : cut? Command.fieldEnd t with
  | none =>
      rw [cut?_eq_none_iff isCommand_fieldEnd.ne_nil] at hcut
      rw [Option.map_none, cut?_eq_none_iff isCommand_fieldEnd.ne_nil,
        headed_infix_addMarkers_iff headed_fieldEnd (by decide)]
      exact hcut
  | some found =>
      obtain ⟨value, rest⟩ := found
      obtain ⟨rfl, hvalue⟩ := (cut?_eq_some_iff isCommand_fieldEnd).mp hcut
      have hdata : ¬ Command.fieldData <+: Command.fieldEnd ++ rest := fun hpre =>
        absurd (headed_fieldEnd.eq_of_prefix rfl hpre) (by decide)
      rw [Option.map_some, cut?_eq_some_iff isCommand_fieldEnd,
        headed_infix_addMarkers_iff headed_fieldEnd (by decide)]
      refine ⟨?_, hvalue⟩
      rw [List.append_assoc, addMarkers_append (isCommand_fieldEnd.atCaret rest),
        addMarkers_command isCommand_fieldEnd hdata]
      simp

theorem payload?_hexMarker (t : Text) :
    payload? (hexMarker ++ t) = (payload? t).map fun (middle, value) =>
      (hexMarker ++ middle, value) := by
  change payload? ('^' :: 'F' :: 'H' :: t) = _
  rw [payload?_cons (by simp [Command.fieldData]) (by simp [Command.fieldEnd]),
    payload?_cons (by simp [Command.fieldData]) (by simp [Command.fieldEnd]),
    payload?_cons (by simp [Command.fieldData]) (by simp [Command.fieldEnd]),
    Option.map_map, Option.map_map]
  rfl

/-- The middle gets the marker at its end, and the value those of its own data commands. -/
theorem payload?_addMarkers (seen t : Text) :
    payload? (addMarkers seen t) = (payload? t).map fun (middle, value) =>
      (middle ++ missingMarker (middle.reverse ++ seen),
        addMarkers ((middle ++ Command.fieldData).reverse ++ seen) value) := by
  induction t generalizing seen with
  | nil => rfl
  | cons c cs ih =>
      by_cases hdata : Command.fieldData <+: c :: cs
      · obtain ⟨z, hz⟩ := hdata
        rw [← hz, payload?_of_fieldData rfl, addMarkers_fieldData]
        have hbehind : payload? (missingMarker seen ++ (Command.fieldData ++
            addMarkers (Command.fieldData.reverse ++ seen) z)) =
            (cut? Command.fieldEnd (addMarkers (Command.fieldData.reverse ++ seen) z)).map
              fun (value, _) => (missingMarker seen, value) := by
          rw [missingMarker]
          split
          · exact payload?_of_fieldData rfl
          · rw [payload?_hexMarker, payload?_of_fieldData rfl, Option.map_map]
            rfl
        rw [hbehind, cut?_fieldEnd_addMarkers, Option.map_map, Option.map_map]
        rfl
      · by_cases hend : Command.fieldEnd <+: c :: cs
        · obtain ⟨z, hz⟩ := hend
          rw [← hz, addMarkers_command isCommand_fieldEnd (hz ▸ hdata), payload?_of_fieldEnd rfl,
            payload?_of_fieldEnd rfl]
          rfl
        · have hend' : ¬ Command.fieldEnd <+: addMarkers seen (c :: cs) := by
            rw [headed_prefix_addMarkers_iff headed_fieldEnd (by decide)]
            exact hend
          rw [addMarkers_cons hdata] at hend' ⊢
          have hdata' : ¬ Command.fieldData <+: c :: addMarkers (c :: seen) cs := by
            rwa [prefix_cons_addMarkers_iff isCommand_fieldData]
          rw [payload?_cons hdata' hend', payload?_cons hdata hend, ih]
          simp [Option.map_map, Function.comp_def]

/-- A lead begins with a word that is no command of the cleaning. -/
theorem exists_headed_of_isLead {lead : Text} (h : IsLead .barcode lead) :
    ∃ word, Headed word lead ∧ word ∉ [Command.fieldData, hexMarker] ∧
      word ∉ [Command.fieldData, Command.fieldEnd] := by
  obtain ⟨word, hword, hheaded⟩ := h.headed
  refine ⟨word, hheaded, ?_⟩
  simp only [List.mem_cons, List.not_mem_nil, or_false] at hword
  rcases hword with rfl | rfl <;> decide

theorem barcodeCommand?_addMarkers (seen t : Text) :
    barcodeCommand? (addMarkers seen t) = barcodeCommand? t := by
  refine Option.ext fun lead => ?_
  rw [barcodeCommand?_eq_some_iff, barcodeCommand?_eq_some_iff]
  refine and_congr_right fun h => ?_
  obtain ⟨word, hheaded, hword, _⟩ := exists_headed_of_isLead h
  exact headed_prefix_addMarkers_iff hheaded hword seen t

theorem addMarkers_lead {lead : Text} (h : IsLead .barcode lead) (seen z : Text) :
    addMarkers seen (lead ++ z) = lead ++ addMarkers (lead.reverse ++ seen) z := by
  obtain ⟨word, hheaded, hword, _⟩ := exists_headed_of_isLead h
  exact addMarkers_command h.isCommand
    (fun hpre => hword (by simp [hheaded.eq_of_prefix rfl hpre])) seen

theorem middleAndValue?_addMarkers {kind : FieldKind} (hkind : kind ≠ .image) (seen t : Text) :
    middleAndValue? kind (addMarkers seen t) =
      (middleAndValue? kind t).map fun (middle, value) =>
        (middle ++ missingMarker (middle.reverse ++ seen),
          addMarkers ((middle ++ Command.fieldData).reverse ++ seen) value) := by
  cases kind with
  | image => exact absurd rfl hkind
  | text => exact payload?_addMarkers seen t
  | barcode =>
      simp only [middleAndValue?, barcodeCommand?_addMarkers]
      cases hcommand : barcodeCommand? t with
      | none => rfl
      | some lead =>
          obtain ⟨hlead, z, rfl⟩ := barcodeCommand?_eq_some_iff.mp hcommand
          simp only [Option.bind_eq_bind, Option.bind_some, addMarkers_lead hlead, List.drop_left,
            payload?_addMarkers]
          cases payload? z with
          | none => rfl
          | some found => simp

/-! ## Statements -/

/-- The statement with the markers that its data commands miss behind a text read backwards. -/
def marked (seen : Text) (s : Statement) : Statement :=
  { s with
    middle := s.middle ++ missingMarker ((s.front ++ s.middle).reverse ++ seen)
    value := addMarkers ((s.front ++ s.middle ++ Command.fieldData).reverse ++ seen) s.value }

theorem opener_not_mem (kind : FieldKind) : kind.opener ∉ [Command.fieldData, hexMarker] := by
  cases kind <;> decide

/-- **To recognise a statement and to put markers in commute.** -/
theorem match?_addMarkers {kind : FieldKind} (hkind : kind ≠ .image) (seen t : Text) :
    match? kind (addMarkers seen t) = (match? kind t).map (marked seen) := by
  unfold match?
  rw [after?_addMarkers (headed_opener kind) (opener_not_mem kind)]
  cases after? kind.opener t with
  | none => rfl
  | some behind =>
      simp only [Option.bind_eq_bind, Option.map_some, Option.bind_some, coordinates?_addMarkers]
      cases coordinates? behind with
      | none => rfl
      | some parts =>
          obtain ⟨x, y, rest⟩ := parts
          simp only [Option.map_some, Option.bind_some, middleAndValue?_addMarkers hkind]
          cases middleAndValue? kind rest with
          | none => rfl
          | some found =>
              obtain ⟨middle, value⟩ := found
              simp [marked, front, coordinates]

/-- The middle of a statement has no command in it at which the search would have been over. -/
theorem not_infix_middle {s : Statement} (hs : s.Valid) {word : Text} (hstop : Stop s.kind word)
    (hthree : word.length = 3) (hword : word ∉ [ean13, code128]) : ¬ word <:+: s.middle := by
  obtain ⟨lead, rest, hmiddle, hlead, hfree⟩ := hs.middle
  rw [hmiddle]
  rcases hlead.eq_nil_or_isCommand with rfl | ⟨hbarcode, hcommand⟩
  · exact hfree _ hstop
  · rw [hbarcode] at hlead
    obtain ⟨other, hother, hheaded⟩ := hlead.headed
    rw [hstop.isCommand.infix_command_append_iff hcommand]
    · exact hfree _ hstop
    · exact fun hpre => hword (hheaded.eq_of_prefix hthree hpre ▸ hother)

theorem not_fieldData_infix_middle {s : Statement} (hs : s.Valid) (hkind : s.kind ≠ .image) :
    ¬ Command.fieldData <:+: s.middle :=
  not_infix_middle hs (.fieldData hkind) rfl (by decide)

/-- A statement gets its markers where it stands, and what follows it gets its own. -/
theorem addMarkers_text {s : Statement} (hs : s.Valid) (hkind : s.kind ≠ .image)
    (seen rest : Text) :
    addMarkers seen (s.text ++ rest) =
      (marked seen s).text ++ addMarkers (s.text.reverse ++ seen) rest := by
  have hfront : ∀ z, ¬ Command.fieldData <+: s.front ++ z := fun z hpre =>
    opener_not_mem s.kind (by simp [hs.headed_front.eq_of_prefix rfl hpre])
  have hend : ¬ Command.fieldData <+: Command.fieldEnd ++ rest := fun hpre =>
    absurd (headed_fieldEnd.eq_of_prefix rfl hpre) (by decide)
  rw [text_eq_front, text_eq_front, dataCommand_eq hkind, closer_eq hkind]
  simp only [List.append_assoc]
  rw [addMarkers_command hs.isCommand_front (hfront _),
    addMarkers_append (isCommand_fieldData.atCaret _),
    addMarkers_eq_self (not_fieldData_infix_middle hs hkind), addMarkers_fieldData,
    addMarkers_append (isCommand_fieldEnd.atCaret rest), addMarkers_command isCommand_fieldEnd hend]
  have hkind' : (marked seen s).kind ≠ .image := hkind
  rw [dataCommand_eq hkind', closer_eq hkind']
  simp [marked, front, coordinates]

/-- What the recogniser makes of a statement where it commutes with a rewriting is a statement. -/
theorem valid_of_match?_eq_map {s : Statement} (hs : s.Valid) {t : Text}
    {f : Statement → Statement} (h : match? s.kind t = (match? s.kind s.text).map f) :
    (f s).Valid := by
  have hmatch : match? s.kind s.text = some s :=
    match?_eq_some_iff.mpr ⟨rfl, hs, List.prefix_refl _⟩
  rw [hmatch, Option.map_some] at h
  exact (match?_eq_some_iff.mp h).2.1

theorem marked_valid {s : Statement} (hs : s.Valid) (hkind : s.kind ≠ .image) (seen : Text) :
    (marked seen s).Valid := valid_of_match?_eq_map hs (match?_addMarkers hkind seen s.text)

/-! ## The statements of a document with markers -/

/-- A command that opens no statement of the kind is passed over. -/
theorem found_command_append {kind : FieldKind} {word p : Text} (h : Headed word p)
    (hword : word ≠ kind.opener) (z : Text) :
    found (recognise kind) (p ++ z) = found (recognise kind) z := by
  have hno : ¬ kind.opener <+: p ++ z := fun hpre =>
    hword (h.eq_of_prefix (headed_opener kind).three hpre).symm
  obtain ⟨name, rfl, hname⟩ := h.isCommand
  rw [List.cons_append] at hno ⊢
  rw [found_of_not_opener hno, found_append_of_not_mem hname]

/-- A character at which no statement begins is passed over, and so is what is put before it. -/
theorem found_addMarkers_of_none {kind : FieldKind} {seen : Text} {c : Char} {cs : Text}
    (hmarked : recognise kind (addMarkers seen (c :: cs)) = none) :
    found (recognise kind) (addMarkers seen (c :: cs)) =
      found (recognise kind) (addMarkers (c :: seen) cs) := by
  by_cases hdata : Command.fieldData <+: c :: cs
  · -- a data command opens no statement, nor does the marker before it
    obtain ⟨z, hz⟩ := hdata
    obtain ⟨rfl, rfl⟩ := List.cons.inj (show '^' :: (['F', 'D'] ++ z) = c :: cs from hz)
    have hopener := opener_not_mem kind
    simp only [List.mem_cons, List.not_mem_nil, or_false, not_or] at hopener
    have hmarker : ∀ u, found (recognise kind) (missingMarker seen ++ u) =
        found (recognise kind) u := by
      intro u
      rw [missingMarker]
      split
      · rfl
      · exact found_command_append headed_hexMarker (Ne.symm hopener.2) u
    have hname : '^' ∉ ['F', 'D'] := by decide
    rw [← hz, addMarkers_fieldData, hmarker, addMarkers_append_of_not_mem hname,
      found_append_of_not_mem hname]
    exact found_command_append (headed_self isCommand_fieldData rfl) (Ne.symm hopener.1) _
  · rw [addMarkers_cons hdata] at hmarked ⊢
    exact found_of_none hmarked

/-- **The statements with their missing markers are those of the document with markers.** -/
theorem forall₂_found_addMarkers {kind : FieldKind} (hkind : kind ≠ .image) (seen t : Text) :
    List.Forall₂ (fun s s' => ∃ seen, s' = marked seen s) (found (recognise kind) t)
      (found (recognise kind) (addMarkers seen t)) := by
  refine (exact_recognise kind).forall₂_found addMarkers_nil ?_ ?_ seen t
  · intro seen c cs h
    refine ⟨c :: seen, found_addMarkers_of_none ?_⟩
    rw [recognise_eq_none_iff] at h ⊢
    rw [match?_addMarkers hkind, h, Option.map_none]
  · intro seen t s n h
    obtain ⟨rfl, hs, ⟨rest, rfl⟩, rfl⟩ := recognise_eq_some_iff.mp h
    refine ⟨s.text.reverse ++ seen, marked seen s, ⟨seen, rfl⟩, ?_⟩
    rw [addMarkers_text hs hkind, ← length_text, List.drop_left]
    exact (marked_valid hs hkind seen).found_append _

/-! ## The escape character -/

theorem exists_of_endsWithMarker {t : Text} (h : endsWithMarker t = true) :
    ∃ a, a.length ≤ 1 ∧ a ++ hexMarker.reverse <+: t := by
  unfold endsWithMarker at h
  split at h
  · rename_i rest
    exact ⟨[], by simp, rest, rfl⟩
  · rename_i c _
    exact ⟨[c], by simp, _, rfl⟩
  · exact absurd h (by simp)

/-- If a text is long enough, the marker that it is found to end with lies within it. -/
theorem hexMarker_infix_of_endsWithMarker {w seen : Text} (hw : 4 ≤ w.length)
    (h : endsWithMarker (w.reverse ++ seen) = true) : hexMarker <:+: w := by
  obtain ⟨a, ha, hpre⟩ := exists_of_endsWithMarker h
  have hin : a ++ hexMarker.reverse <+: w.reverse := by
    refine List.prefix_of_prefix_length_le hpre (List.prefix_append _ _) ?_
    simp only [List.length_append, List.length_reverse, hexMarker, List.length_cons,
      List.length_nil]
    omega
  obtain ⟨b, hb⟩ := hin
  refine ⟨b.reverse, a.reverse, ?_⟩
  have hrev := congrArg List.reverse hb
  simpa using hrev

theorem hexMarker_infix_middle {s : Statement} (hs : s.Valid) {seen : Text}
    (h : endsWithMarker ((s.front ++ s.middle).reverse ++ seen) = true) :
    hexMarker <:+: s.middle := by
  have hlength : 4 ≤ (s.front ++ s.middle).length := by
    have hopener := (headed_opener s.kind).three
    simp only [front, coordinates, List.length_append, List.length_cons]
    omega
  have hin := hexMarker_infix_of_endsWithMarker hlength h
  rwa [isCommand_hexMarker.infix_command_append_iff hs.isCommand_front] at hin
  exact fun hpre => opener_not_mem s.kind (by simp [← hs.headed_front.eq_of_prefix rfl hpre])

/-- With its markers a statement has the escape character it had, or else the default. -/
theorem markerEscape?_marked {s : Statement} (hs : s.Valid) (seen : Text) :
    markerEscape? (marked seen s).middle =
      some ((markerEscape? s.middle).getD defaultEscape) := by
  cases hends : endsWithMarker ((s.front ++ s.middle).reverse ++ seen) with
  | true =>
      have hmiddle : (marked seen s).middle = s.middle := by
        rw [marked, missingMarker, if_pos hends, List.append_nil]
      rw [hmiddle]
      cases hescape : markerEscape? s.middle with
      | some e => rfl
      | none =>
          -- the marker that ends there would have been found
          have hno := (cut?_eq_none_iff isCommand_hexMarker.ne_nil).mp
            (Option.map_eq_none_iff.mp hescape)
          exact absurd (hexMarker_infix_middle hs hends) hno
  | false =>
      have hmiddle : (marked seen s).middle = s.middle ++ hexMarker := by
        rw [marked, missingMarker, if_neg (by rw [hends]; decide)]
      rw [hmiddle, markerEscape?_append_hexMarker]

end LabelTemplate.Cleaning
