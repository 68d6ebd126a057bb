import LabelTemplate.Proofs.Cleaning.Underscores

/-!
# Statements with their underscores restored

Neither a command that the recogniser looks for nor the edge of a coordinate has a character of the
code of the underscore. So to recognise a text or a bar code and to restore commute
(`match?_restoreFrom`): its value is restored, and if it begins inside the data of another
statement, so are its other parts. Its value ends that data as well as its own, so what follows a
statement is gone over from the outside, whatever came before it.
-/

namespace LabelTemplate.Cleaning

open Text Command Scan Statement

/-! ## The parts of a statement -/

/-- What becomes of a part of a statement that is on one side only. -/
def restorePart (inData : Bool) (w : Text) : Text := if inData then restore w else w

theorem mem_of_mem_restorePart {inData : Bool} {c : Char} {w : Text}
    (h : c ∈ restorePart inData w) : c ∈ w := by
  cases inData with
  | true => exact mem_of_mem_restore h
  | false => exact h

/-- A part in which the side does not change is restored by itself. -/
theorem restoreFrom_append {w z : Text} {inData : Bool}
    (hw : ∀ u, u ≠ [] → u <:+ w → ¬ Command.fieldData <+: u ++ z ∧ ¬ Command.fieldEnd <+: u ++ z)
    (hz : inData = true → ∀ c ∈ z.head?, c ≠ '5' ∧ c ≠ 'f') :
    restoreFrom inData (w ++ z) = restorePart inData w ++ restoreFrom inData z := by
  have hne : escapedUnderscore ≠ [] := by decide
  have hin : ∀ {d : Text}, restorePart true d = restore d := rfl
  have hout : ∀ {d : Text}, restorePart false d = d := rfl
  cases inData with
  | false =>
      induction w with
      | nil => rfl
      | cons c cs ih =>
          obtain ⟨hdata, hend⟩ := hw (c :: cs) (by simp) (List.suffix_refl _)
          rw [List.cons_append] at hdata hend ⊢
          rw [restoreFrom_cons hdata hend (by simp),
            ih fun u hu hsuffix => hw u hu (hsuffix.trans (List.suffix_cons c cs))]
          rfl
  | true =>
      induction w using induction_on_pattern hne with
      | nil => rfl
      | plain c cs hno ih =>
          obtain ⟨hdata, hend⟩ := hw (c :: cs) (by simp) (List.suffix_refl _)
          have hcode := not_code_prefix_append hno (List.cons_ne_nil c cs) (hz rfl)
          rw [List.cons_append] at hdata hend hcode ⊢
          rw [restoreFrom_cons hdata hend fun _ => hcode,
            ih fun u hu hsuffix => hw u hu (hsuffix.trans (List.suffix_cons c cs)),
            hin, hin, restore_cons hno, List.cons_append]
      | occurrence t ih =>
          have hsplit : restoreFrom true (escapedUnderscore ++ t ++ z) =
              '_' :: restoreFrom true (t ++ z) := by
            rw [List.append_assoc]
            exact restoreInData_escaped (t ++ z)
          rw [hsplit, ih fun u hu hsuffix => hw u hu (hsuffix.trans (List.suffix_append _ t)),
            hin, hin, restore_escaped, List.cons_append]

theorem restoreFrom_append_of_not_mem {w z : Text} {inData : Bool} (hw : '^' ∉ w)
    (hz : inData = true → ∀ c ∈ z.head?, c ≠ '5' ∧ c ≠ 'f') :
    restoreFrom inData (w ++ z) = restorePart inData w ++ restoreFrom inData z := by
  refine restoreFrom_append (fun u hu hsuffix => ?_) hz
  obtain ⟨d, u, rfl⟩ := List.exists_cons_of_ne_nil hu
  have hd : '^' ≠ d := fun h => hw (h ▸ hsuffix.subset List.mem_cons_self)
  exact ⟨fun hpre => hd (List.cons_prefix_cons.mp hpre).1,
    fun hpre => hd (List.cons_prefix_cons.mp hpre).1⟩

theorem restoreFrom_append_atCaret {w z : Text} (hdata : ¬ Command.fieldData <:+: w)
    (hend : ¬ Command.fieldEnd <:+: w) (hz : AtCaret z) (inData : Bool) :
    restoreFrom inData (w ++ z) = restorePart inData w ++ restoreFrom inData z := by
  refine restoreFrom_append (fun u hu hsuffix => ?_) fun _ => ?_
  · rw [isCommand_fieldData.prefix_append_iff hu hz, isCommand_fieldEnd.prefix_append_iff hu hz]
    exact ⟨fun hpre => hdata (hpre.isInfix.trans hsuffix.isInfix),
      fun hpre => hend (hpre.isInfix.trans hsuffix.isInfix)⟩
  · obtain ⟨u, rfl⟩ := hz
    intro c hc
    obtain rfl := Option.some.inj hc
    decide

/-- A coordinate is as long as before, but for its codes. -/
theorem span_restoreFrom (inData : Bool) (t : Text) :
    (restoreFrom inData t).takeWhile isCoordinate =
        restorePart inData (t.takeWhile isCoordinate) ∧
      (restoreFrom inData t).dropWhile isCoordinate =
        restoreFrom inData (t.dropWhile isCoordinate) := by
  have hrun : ∀ c ∈ t.takeWhile isCoordinate, isCoordinate c = true := of_mem_takeWhile
  have hrest : ∀ c ∈ (t.dropWhile isCoordinate).head?, isCoordinate c = false := head?_dropWhile_not
  have hdigit : ∀ c ∈ (t.dropWhile isCoordinate).head?, c ≠ '5' ∧ c ≠ 'f' := by
    intro c hc
    have hno := hrest c hc
    constructor <;>
      · rintro rfl
        exact absurd hno (by decide)
  nth_rewrite 1 3 [← List.takeWhile_append_dropWhile (p := isCoordinate) (l := t)]
  rw [restoreFrom_append_of_not_mem (not_mem_of_isCoordinate hrun) fun _ => hdigit]
  refine takeWhile_append_of_head _ (fun c hc => hrun c (mem_of_mem_restorePart hc)) ?_
  rw [head?_restoreFrom]
  exact hrest

theorem coordinates?_restoreFrom (inData : Bool) (t : Text) :
    coordinates? (restoreFrom inData t) = (coordinates? t).map fun (x, y, rest) =>
      (restorePart inData x, restorePart inData y, restoreFrom inData rest) := by
  obtain ⟨hx, hbehind⟩ := span_restoreFrom inData t
  unfold coordinates?
  rw [hx, hbehind]
  cases hdrop : t.dropWhile isCoordinate with
  | nil => rw [restoreFrom_nil]; rfl
  | cons c cs =>
      by_cases hc : c = ','
      · subst hc
        rw [restoreFrom_cons_of_ne (by decide) fun _ => by decide]
        obtain ⟨hy, hrest⟩ := span_restoreFrom inData cs
        simp only [hy, hrest, Option.map_some]
      · obtain ⟨u, hu⟩ := List.head?_eq_some_iff.mp (head?_restoreFrom inData (c :: cs))
        rw [hu]
        simp [hc]

theorem not_fieldEnd_infix_restore {v : Text} (h : ¬ Command.fieldEnd <:+: v) :
    ¬ Command.fieldEnd <:+: restore v := by
  have hcut : cut? Command.fieldEnd v = none := (cut?_eq_none_iff isCommand_fieldEnd.ne_nil).mpr h
  have hall : restoreFrom true v = restore v := by
    change restoreInData v = _
    rw [restoreInData, hcut]
  exact fun hin => h (infix_of_infix_restoreFrom (by decide) (hall ▸ hin))

/-- Behind a data command the value is restored, from whatever side. -/
theorem cut?_restoreFrom_fieldData (inData : Bool) (z : Text) :
    (cut? Command.fieldEnd (restoreFrom (inData || contains Command.fieldEnd z) z)).map Prod.fst =
      (cut? Command.fieldEnd z).map fun (value, _) => restore value := by
  cases hcut : cut? Command.fieldEnd z with
  | none =>
      have hno := (cut?_eq_none_iff isCommand_fieldEnd.ne_nil).mp hcut
      have hnone : cut? Command.fieldEnd
          (restoreFrom (inData || contains Command.fieldEnd z) z) = none :=
        (cut?_eq_none_iff isCommand_fieldEnd.ne_nil).mpr fun hin =>
          hno (infix_of_infix_restoreFrom (by decide) hin)
      rw [hnone]
      rfl
  | some found =>
      obtain ⟨value, rest⟩ := found
      have hvalue := ((cut?_eq_some_iff isCommand_fieldEnd).mp hcut).2
      have hin : (inData || contains Command.fieldEnd z) = true := by
        rw [contains, hcut, Bool.or_eq_true]
        exact Or.inr rfl
      have hdata : restoreFrom true z =
          restore value ++ Command.fieldEnd ++ restoreUnderscores rest := by
        change restoreInData z = _
        rw [restoreInData, hcut, List.append_assoc]
      rw [hin, hdata, (cut?_eq_some_iff isCommand_fieldEnd).mpr
        ⟨rfl, not_fieldEnd_infix_restore hvalue⟩]
      rfl

theorem payload?_escaped (t : Text) :
    payload? (escapedUnderscore ++ t) = (payload? t).map fun (middle, value) =>
      (escapedUnderscore ++ middle, value) := by
  change payload? ('_' :: '5' :: 'f' :: t) = _
  rw [payload?_cons (by simp [Command.fieldData]) (by simp [Command.fieldEnd]),
    payload?_cons (by simp [Command.fieldData]) (by simp [Command.fieldEnd]),
    payload?_cons (by simp [Command.fieldData]) (by simp [Command.fieldEnd]),
    Option.map_map, Option.map_map]
  rfl

theorem restorePart_nil (inData : Bool) : restorePart inData [] = [] := by
  cases inData <;> rfl

theorem restorePart_cons {c : Char} {cs : Text} (h : ¬ escapedUnderscore <+: c :: cs)
    (inData : Bool) : restorePart inData (c :: cs) = c :: restorePart inData cs := by
  cases inData with
  | true => exact restore_cons h
  | false => rfl

theorem restorePart_append_of_not_mem {w : Text} (hw : '_' ∉ w) (inData : Bool) (z : Text) :
    restorePart inData (w ++ z) = w ++ restorePart inData z := by
  induction w with
  | nil => rfl
  | cons c w ih =>
      rw [List.mem_cons, not_or] at hw
      rw [List.cons_append, restorePart_cons, ih hw.2, List.cons_append]
      exact fun hpre => hw.1 (List.cons_prefix_cons.mp hpre).1

/-- The middle is restored if the text begins inside data, and the value in any case. -/
theorem payload?_restoreFrom (inData : Bool) (t : Text) :
    payload? (restoreFrom inData t) = (payload? t).map fun (middle, value) =>
      (restorePart inData middle, restore value) := by
  have hne : escapedUnderscore ≠ [] := by decide
  induction t using induction_on_pattern hne with
  | nil => rw [restoreFrom_nil]; rfl
  | occurrence t ih =>
      rw [payload?_escaped, Option.map_map]
      cases inData with
      | true =>
          have hsplit : restoreFrom true (escapedUnderscore ++ t) = '_' :: restoreFrom true t :=
            restoreInData_escaped t
          have hmiddle : ∀ m, restorePart true (escapedUnderscore ++ m) =
              '_' :: restorePart true m := restore_escaped
          rw [hsplit, payload?_cons (by simp [Command.fieldData]) (by simp [Command.fieldEnd]), ih,
            Option.map_map]
          simp only [Function.comp_def, hmiddle]
      | false =>
          have hsplit : restoreFrom false (escapedUnderscore ++ t) =
              escapedUnderscore ++ restoreFrom false t :=
            restoreFrom_append_of_not_mem (by decide) (by simp)
          rw [hsplit, payload?_escaped, ih, Option.map_map]
          rfl
  | plain c cs hno ih =>
      by_cases hdata : Command.fieldData <+: c :: cs
      · obtain ⟨z, hz⟩ := hdata
        have hcut := congrArg (Option.map fun value => (([] : Text), value))
          (cut?_restoreFrom_fieldData inData z)
        rw [Option.map_map, Option.map_map] at hcut
        rw [← hz, restoreFrom_fieldData, payload?_of_fieldData rfl, payload?_of_fieldData rfl,
          Option.map_map]
        simp only [Function.comp_def, restorePart_nil] at hcut ⊢
        exact hcut
      · by_cases hend : Command.fieldEnd <+: c :: cs
        · obtain ⟨z, hz⟩ := hend
          rw [← hz, restoreFrom_fieldEnd, payload?_of_fieldEnd rfl, payload?_of_fieldEnd rfl]
          rfl
        · have hdata' := (prefix_restoreFrom_iff (by decide) inData (c :: cs)).not.mpr hdata
          have hend' := (prefix_restoreFrom_iff (by decide) inData (c :: cs)).not.mpr hend
          rw [restoreFrom_cons hdata hend fun _ => hno] at hdata' hend' ⊢
          rw [payload?_cons hdata' hend', payload?_cons hdata hend, ih]
          cases hpayload : payload? cs with
          | none => rfl
          | some found =>
              obtain ⟨middle, value⟩ := found
              have hkind : FieldKind.text ≠ .image := by decide
              obtain ⟨_, _, hpre⟩ := (payload?_eq_some_iff hkind).mp hpayload
              have hmiddle : ¬ escapedUnderscore <+: c :: middle := fun h =>
                hno (h.trans ((List.prefix_cons_inj c).mpr ((List.prefix_append _ _).trans hpre)))
              simp only [Option.map_some, restorePart_cons hmiddle]

theorem not_mem_of_isLead {lead : Text} (h : IsLead .barcode lead) : '_' ∉ lead := by
  obtain ⟨command, hcommand, orientation, hupper, rfl⟩ := h
  have ho : orientation ≠ '_' := by rintro rfl; exact absurd hupper (by decide)
  simp only [List.mem_cons, List.not_mem_nil, or_false] at hcommand
  rcases hcommand with rfl | rfl <;> simp [ean13, code128, Ne.symm ho]

theorem middleAndValue?_restoreFrom {kind : FieldKind} (hkind : kind ≠ .image) (inData : Bool)
    (t : Text) :
    middleAndValue? kind (restoreFrom inData t) = (middleAndValue? kind t).map
      fun (middle, value) => (restorePart inData middle, restore value) := by
  cases kind with
  | image => exact absurd rfl hkind
  | text => exact payload?_restoreFrom inData t
  | barcode =>
      have hsame : barcodeCommand? (restoreFrom inData t) = barcodeCommand? t := by
        refine Option.ext fun lead => ?_
        rw [barcodeCommand?_eq_some_iff, barcodeCommand?_eq_some_iff]
        exact and_congr_right fun h => prefix_restoreFrom_iff (not_mem_of_isLead h) inData t
      simp only [middleAndValue?, hsame]
      cases hcommand : barcodeCommand? t with
      | none => rfl
      | some lead =>
          obtain ⟨hlead, z, rfl⟩ := barcodeCommand?_eq_some_iff.mp hcommand
          obtain ⟨word, hheaded, _, hword⟩ := exists_headed_of_isLead hlead
          have hpart := restorePart_append_of_not_mem (not_mem_of_isLead hlead) inData
          simp only [Option.bind_eq_bind, Option.bind_some, List.drop_left, payload?_restoreFrom,
            restoreFrom_command hheaded (not_mem_of_isLead hlead) hword]
          cases payload? z with
          | none => rfl
          | some found => simp [hpart]

/-! ## Statements -/

/-- The statement with its value restored, and its other parts too if it begins inside data. -/
def restored (inData : Bool) (s : Statement) : Statement :=
  { s with
    x := restorePart inData s.x
    y := restorePart inData s.y
    middle := restorePart inData s.middle
    value := restore s.value }

theorem opener_not_mem_of_side (kind : FieldKind) :
    '_' ∉ kind.opener ∧ kind.opener ∉ [Command.fieldData, Command.fieldEnd] := by
  cases kind <;> decide

/-- **To recognise a text or a bar code and to restore commute.** -/
theorem match?_restoreFrom {kind : FieldKind} (hkind : kind ≠ .image) (inData : Bool) (t : Text) :
    match? kind (restoreFrom inData t) = (match? kind t).map (restored inData) := by
  obtain ⟨hcode, hword⟩ := opener_not_mem_of_side kind
  unfold match?
  rw [after?_restoreFrom (headed_opener kind) hcode hword]
  cases after? kind.opener t with
  | none => rfl
  | some behind =>
      simp only [Option.bind_eq_bind, Option.map_some, Option.bind_some, coordinates?_restoreFrom]
      cases coordinates? behind with
      | none => rfl
      | some parts =>
          obtain ⟨x, y, rest⟩ := parts
          simp only [Option.map_some, Option.bind_some, middleAndValue?_restoreFrom hkind]
          cases middleAndValue? kind rest with
          | none => rfl
          | some found => rfl

theorem restored_valid {s : Statement} (hs : s.Valid) (hkind : s.kind ≠ .image) (inData : Bool) :
    (restored inData s).Valid :=
  valid_of_match?_eq_map hs (match?_restoreFrom hkind inData s.text)

/-- A statement ends on the outside, from whatever side it begins. -/
theorem restoreFrom_text {s : Statement} (hs : s.Valid) (hkind : s.kind ≠ .image)
    (inData : Bool) (rest : Text) :
    restoreFrom inData (s.text ++ rest) =
      (restored inData s).text ++ restoreFrom false rest := by
  obtain ⟨hcode, hword⟩ := opener_not_mem_of_side s.kind
  have hcomma : ∀ z, ∀ c ∈ (',' :: z : Text).head?, c ≠ '5' ∧ c ≠ 'f' := by
    intro z c hc
    obtain rfl := Option.some.inj hc
    decide
  have hboundary : ∀ z, ∀ c ∈ (s.middle ++ (Command.fieldData ++ z)).head?,
      c ≠ '5' ∧ c ≠ 'f' := by
    intro z c hc
    have hno := hs.boundary_append z c (by rw [dataCommand_eq hkind]; exact hc)
    constructor <;>
      · rintro rfl
        exact absurd hno (by decide)
  have hvalue := (validValue_iff hkind).mp hs.value
  have hcut : cut? Command.fieldEnd (s.value ++ (Command.fieldEnd ++ rest)) =
      some (s.value, rest) :=
    (cut?_eq_some_iff isCommand_fieldEnd).mpr ⟨by rw [List.append_assoc], hvalue⟩
  have hin : (inData || contains Command.fieldEnd (s.value ++ (Command.fieldEnd ++ rest))) =
      true := by
    rw [contains, hcut, Bool.or_eq_true]
    exact Or.inr rfl
  have hdata : restoreFrom true (s.value ++ (Command.fieldEnd ++ rest)) =
      restore s.value ++ (Command.fieldEnd ++ restoreFrom false rest) := by
    change restoreInData _ = _
    rw [restoreInData, hcut]
    rfl
  rw [text_eq, text_eq, dataCommand_eq hkind, closer_eq hkind]
  simp only [List.append_assoc, List.cons_append]
  rw [restoreFrom_command (headed_opener s.kind) hcode hword,
    restoreFrom_append_of_not_mem (not_mem_of_isCoordinate hs.x) fun _ => hcomma _,
    restoreFrom_cons_of_ne (by decide) fun _ => by decide,
    restoreFrom_append_of_not_mem (not_mem_of_isCoordinate hs.y) fun _ => hboundary _,
    restoreFrom_append_atCaret (not_fieldData_infix_middle hs hkind)
      (not_infix_middle hs (.fieldEnd _) rfl (by decide)) (isCommand_fieldData.atCaret _),
    restoreFrom_fieldData, hin, hdata]
  have hkind' : (restored inData s).kind ≠ .image := hkind
  rw [dataCommand_eq hkind', closer_eq hkind']
  rfl

/-! ## The statements of a restored document -/

/-- A character at which no statement begins is passed over, with what belongs to its code. -/
theorem exists_found_restoreFrom_of_none {kind : FieldKind} (hkind : kind ≠ .image) {c : Char}
    {cs : Text} (h : recognise kind (c :: cs) = none) (inData : Bool) :
    ∃ inData', found (recognise kind) (restoreFrom inData (c :: cs)) =
      found (recognise kind) (restoreFrom inData' cs) := by
  have hrestored : recognise kind (restoreFrom inData (c :: cs)) = none := by
    rw [recognise_eq_none_iff] at h ⊢
    rw [match?_restoreFrom hkind, h, Option.map_none]
  obtain ⟨inData', cs', hstep, hcs⟩ := restoreFrom_step inData c cs
  refine ⟨inData', ?_⟩
  rw [hstep] at hrestored ⊢
  rw [found_of_none hrestored]
  rcases hcs with rfl | ⟨_, rfl⟩
  · rfl
  · rw [restoreFrom_cons_of_ne (by decide) fun _ => by decide,
      restoreFrom_cons_of_ne (by decide) fun _ => by decide]
    exact (@found_append_of_not_mem kind ['5', 'f'] (by decide) _).symm

/-- **The restored statements are those of the restored document.** -/
theorem forall₂_found_restoreFrom {kind : FieldKind} (hkind : kind ≠ .image) (inData : Bool)
    (t : Text) :
    List.Forall₂ (fun s s' => ∃ inData, s' = restored inData s) (found (recognise kind) t)
      (found (recognise kind) (restoreFrom inData t)) := by
  refine (exact_recognise kind).forall₂_found restoreFrom_nil ?_ ?_ inData t
  · exact fun inData c cs h => exists_found_restoreFrom_of_none hkind h inData
  · intro inData t s n h
    obtain ⟨rfl, hs, ⟨rest, rfl⟩, rfl⟩ := recognise_eq_some_iff.mp h
    refine ⟨false, restored inData s, ⟨inData, rfl⟩, ?_⟩
    rw [restoreFrom_text hs hkind, ← length_text, List.drop_left]
    exact (restored_valid hs hkind inData).found_append _

/-! ## The escape character -/

theorem markerEscape?_cons {c : Char} {cs : Text} (h : ¬ hexMarker <+: c :: cs) :
    markerEscape? (c :: cs) = markerEscape? cs := by
  rw [markerEscape?, cut?, if_neg (by simpa using h), Option.map_map]
  rfl

theorem markerEscape?_hexMarker (z : Text) :
    markerEscape? (hexMarker ++ z) = some ((escapeAfter z).getD defaultEscape) := by
  have hcut : cut? hexMarker (hexMarker ++ z) = some ([], z) :=
    (cut?_eq_some_iff isCommand_hexMarker).mpr ⟨rfl, by decide⟩
  rw [markerEscape?, hcut]
  rfl

/-- The character behind a marker stays, so the escape character does. -/
theorem markerEscape?_restoreFrom (inData : Bool) (t : Text) :
    markerEscape? (restoreFrom inData t) = markerEscape? t := by
  induction hlength : t.length using Nat.strongRecOn generalizing inData t with
  | ind n ih =>
    cases t with
    | nil => rw [restoreFrom_nil]
    | cons c cs =>
        by_cases hmarker : hexMarker <+: c :: cs
        · obtain ⟨z, hz⟩ := hmarker
          rw [← hz, restoreFrom_command headed_hexMarker (by decide) (by decide),
            markerEscape?_hexMarker, markerEscape?_hexMarker,
            escapeAfter_of_head?_eq (head?_restoreFrom inData z)]
        · have hmarker' := (prefix_restoreFrom_iff (by decide) inData (c :: cs)).not.mpr hmarker
          obtain ⟨inData', cs', hstep, hcs⟩ := restoreFrom_step inData c cs
          rw [hstep] at hmarker' ⊢
          rw [markerEscape?_cons hmarker', markerEscape?_cons hmarker]
          rw [List.length_cons] at hlength
          rcases hcs with rfl | ⟨_, rfl⟩
          · exact ih _ (by omega) inData' _ rfl
          · have hdigits : markerEscape? ('5' :: 'f' :: cs') = markerEscape? cs' := by
              rw [markerEscape?_cons (by simp [hexMarker]),
                markerEscape?_cons (by simp [hexMarker])]
            rw [hdigits]
            simp only [List.length_cons] at hlength
            exact ih _ (by omega) inData' _ rfl

theorem markerEscape?_restored {s : Statement} (hs : s.Valid) (hkind : s.kind ≠ .image)
    (inData : Bool) : markerEscape? (restored inData s).middle = markerEscape? s.middle := by
  have hdata := not_fieldData_infix_middle hs hkind
  have hend : ¬ Command.fieldEnd <:+: s.middle := not_infix_middle hs (.fieldEnd _) rfl (by decide)
  have hpart : restoreFrom inData s.middle = restorePart inData s.middle := by
    have happend := @restoreFrom_append s.middle [] inData (fun u _ hsuffix => by
      rw [List.append_nil]
      exact ⟨fun hpre => hdata (hpre.isInfix.trans hsuffix.isInfix),
        fun hpre => hend (hpre.isInfix.trans hsuffix.isInfix)⟩) (by simp)
    rwa [restoreFrom_nil, List.append_nil, List.append_nil] at happend
  rw [restored, ← hpart, markerEscape?_restoreFrom]

end LabelTemplate.Cleaning
