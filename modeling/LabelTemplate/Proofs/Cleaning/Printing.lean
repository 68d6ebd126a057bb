import LabelTemplate.Extraction
import LabelTemplate.Proofs.Cleaning.RestoredStatements
import LabelTemplate.Regeneration

/-!
# What a cleaned statement prints

Before delivery a statement gets a hex marker if it has none, and the codes of underscores in
its data become underscores. Both change how data are read: without a marker they were printed as
they stood, and an underscore that comes back may begin an escape with what follows it.

`Keeps` is when neither happens. In it the three ways to read data differ: without a marker no
escape may stand in them; with the underscore as escape character no code of an underscore may
have two more digits behind it; and with another one there may be no such code, since it was not
read as one.
-/

namespace LabelTemplate.Cleaning

open Text Command Scan Statement Printer

/-! ## Escapes in restored data -/

theorem escapeCode_escaped (t : Text) :
    escapeCode '_' (escapedUnderscore ++ t) = some (0x5f, 3) :=
  escapeCode_eq_some_iff.mpr ⟨'5', 'f', 5, 15, t, rfl, by decide, by decide, rfl, rfl⟩

/-- An underscore is no digit, so a code does not begin within another one. -/
theorem ne_underscore_of_hexValue? {c : Char} {n : Nat} (h : hexValue? c = some n) : c ≠ '_' := by
  rintro rfl
  have hno : hexValue? '_' = none := by decide
  rw [hno] at h
  exact absurd h (by simp)

/-- Any other character at the front of a restored text was at the front before. -/
theorem exists_cons_of_restore {c : Char} {t u : Text} (h : restore t = c :: u) (hc : c ≠ '_') :
    ∃ t', t = c :: t' ∧ restore t' = u := by
  cases t with
  | nil => exact absurd h (by simp)
  | cons d t =>
      by_cases hcode : escapedUnderscore <+: d :: t
      · obtain ⟨z, hz⟩ := hcode
        rw [← hz, restore_escaped] at h
        exact absurd (List.cons.inj h).1.symm hc
      · rw [restore_cons hcode] at h
        obtain ⟨rfl, rfl⟩ := List.cons.inj h
        exact ⟨t, rfl, rfl⟩

/--
A rewriting that neither changes digits at the front nor brings any there does not change what a
character in front of it begins.
-/
theorem escapeCode_cons_rewritten {f : Text → Text}
    (hkeep : ∀ {d n t}, hexValue? d = some n → f (d :: t) = d :: f t)
    (hback : ∀ {d n t u}, f t = d :: u → hexValue? d = some n → ∃ t', t = d :: t' ∧ f t' = u)
    (escape c : Char) (t : Text) : escapeCode escape (c :: f t) = escapeCode escape (c :: t) := by
  refine Option.ext fun ⟨code, n⟩ => ?_
  rw [escapeCode_eq_some_iff, escapeCode_eq_some_iff]
  constructor
  · rintro ⟨high, low, h, l, rest, heq, hhigh, hlow, hcode, hn⟩
    obtain ⟨hc, heq⟩ := List.cons.inj heq
    obtain ⟨t', rfl, ht'⟩ := hback heq hhigh
    obtain ⟨t'', rfl, _⟩ := hback ht' hlow
    exact ⟨high, low, h, l, t'', by rw [hc], hhigh, hlow, hcode, hn⟩
  · rintro ⟨high, low, h, l, rest, heq, hhigh, hlow, hcode, hn⟩
    obtain ⟨hc, rfl⟩ := List.cons.inj heq
    exact ⟨high, low, h, l, f rest, by rw [hkeep hhigh, hkeep hlow, hc], hhigh, hlow, hcode, hn⟩

theorem escapeCode_restore (escape c : Char) (t : Text) :
    escapeCode escape (c :: restore t) = escapeCode escape (c :: t) :=
  escapeCode_cons_rewritten (fun hd => restore_cons_of_ne (ne_underscore_of_hexValue? hd) _)
    (fun h hd => exists_cons_of_restore h (ne_underscore_of_hexValue? hd)) escape c t

theorem length_restore (t : Text) :
    (restore t).length ≤ t.length ∧
      (escapedUnderscore <:+: t → (restore t).length < t.length) := by
  have hne : escapedUnderscore ≠ [] := by decide
  induction t using induction_on_pattern hne with
  | nil => exact ⟨Nat.le_refl _, fun h => absurd (List.infix_nil.mp h) hne⟩
  | plain c cs hno ih =>
      rw [restore_cons hno, List.infix_cons_iff]
      simp only [List.length_cons]
      exact ⟨by omega, fun h => by have := ih.2 (h.resolve_left hno); omega⟩
  | occurrence t ih =>
      rw [restore_escaped]
      simp only [escapedUnderscore, List.length_cons, List.length_append, List.length_nil]
      exact ⟨by omega, fun _ => by omega⟩

theorem hasEscape_of_code {t : Text} (h : escapedUnderscore <:+: t) : HasEscape '_' t := by
  obtain ⟨a, b, rfl⟩ := h
  refine ⟨escapedUnderscore ++ b, ?_, by rw [escapeCode_escaped]; rfl⟩
  rw [List.mem_tails, List.append_assoc]
  exact List.suffix_append _ _

/-- **Behind a new marker, data are printed as before exactly if they hold no escape.** -/
theorem readEscaped_restore_eq_map_iff (t : Text) :
    readEscaped '_' (restore t) = t.map .letter ↔ ¬ HasEscape '_' t := by
  constructor
  · intro h hhas
    have hlength := congrArg List.length h
    rw [List.length_map] at hlength
    have hread := (length_readEscaped '_' (restore t)).1
    have hrestore := length_restore t
    by_cases hcode : escapedUnderscore <:+: t
    · have := hrestore.2 hcode
      omega
    · rw [restore, replaceAll_eq_self hcode] at hlength
      have := (length_readEscaped '_' t).2 hhas
      omega
  · intro h
    have hcode : ¬ escapedUnderscore <:+: t := fun hin => h (hasEscape_of_code hin)
    rw [restore, replaceAll_eq_self hcode, readEscaped_of_not_hasEscape h]

/-! ## Codes that an escape follows -/

/--
Somewhere the code of the underscore has two digits behind it, with which an underscore in its place
begins an escape.
-/
def Reopens (t : Text) : Prop :=
  ∃ u ∈ t.tails, escapedUnderscore <+: u ∧
    (escapeCode '_' ('_' :: u.drop escapedUnderscore.length)).isSome = true

instance (t : Text) : Decidable (Reopens t) :=
  inferInstanceAs (Decidable (∃ u ∈ t.tails, _ ∧ _))

theorem not_reopens_nil : ¬ Reopens [] := by decide

theorem reopens_cons_iff {c : Char} {t : Text} (h : ¬ escapedUnderscore <+: c :: t) :
    Reopens (c :: t) ↔ Reopens t := by
  simp [Reopens, h]

theorem reopens_cons_of_ne {c : Char} (h : c ≠ '_') (t : Text) :
    Reopens (c :: t) ↔ Reopens t :=
  reopens_cons_iff fun hpre => h (List.cons_prefix_cons.mp hpre).1.symm

theorem reopens_escaped (t : Text) :
    Reopens (escapedUnderscore ++ t) ↔
      (escapeCode '_' ('_' :: t)).isSome = true ∨ Reopens t := by
  have hdigits : Reopens ('5' :: 'f' :: t) ↔ Reopens t := by
    rw [reopens_cons_of_ne (by decide), reopens_cons_of_ne (by decide)]
  rw [← hdigits]
  simp [Reopens, escapedUnderscore]

/-- Whether data are printed as before, or else with fewer glyphs: the case of a code. -/
theorem readEscaped_restore_escaped {t : Text}
    (h : ¬ Reopens t ∧ readEscaped '_' (restore t) = readEscaped '_' t ∨
      Reopens t ∧ (readEscaped '_' (restore t)).length < (readEscaped '_' t).length) :
    ¬ Reopens (escapedUnderscore ++ t) ∧ readEscaped '_' (restore (escapedUnderscore ++ t)) =
        readEscaped '_' (escapedUnderscore ++ t) ∨
      Reopens (escapedUnderscore ++ t) ∧
        (readEscaped '_' (restore (escapedUnderscore ++ t))).length <
          (readEscaped '_' (escapedUnderscore ++ t)).length := by
  have hread : readEscaped '_' (escapedUnderscore ++ t) = .letter '_' :: readEscaped '_' t :=
    readEscaped_of_some (escapeCode_escaped t)
  rw [hread, restore_escaped, reopens_escaped]
  cases hopen : escapeCode '_' ('_' :: t) with
  | none =>
      have hopen' : escapeCode '_' ('_' :: restore t) = none := by rw [escapeCode_restore, hopen]
      rw [readEscaped_cons hopen']
      exact h.imp (fun hsame => ⟨by simp [hsame.1], by rw [hsame.2]⟩)
        fun hless => ⟨Or.inr hless.1, by simpa using hless.2⟩
  | some found =>
      -- the underscore takes the two digits, which were letters of their own
      have hle : (readEscaped '_' (restore t)).length ≤ (readEscaped '_' t).length :=
        h.elim (fun hsame => by rw [hsame.2]) fun hless => Nat.le_of_lt hless.2
      obtain ⟨high, low, _, _, rest, heq, hhigh, hlow, _⟩ := escapeCode_eq_some_iff.mp hopen
      obtain rfl := (List.cons.inj heq).2
      have hhigh' := ne_underscore_of_hexValue? hhigh
      have hlow' := ne_underscore_of_hexValue? hlow
      rw [restore_cons_of_ne hhigh', restore_cons_of_ne hlow'] at hle ⊢
      rw [readEscaped_cons_of_ne hhigh', readEscaped_cons_of_ne hlow',
        readEscaped_cons_of_ne hhigh', readEscaped_cons_of_ne hlow'] at hle
      rw [readEscaped_escape hhigh hlow, readEscaped_cons_of_ne hhigh',
        readEscaped_cons_of_ne hlow']
      simp only [List.length_cons] at hle ⊢
      exact Or.inr ⟨Or.inl rfl, by omega⟩

/-- **Behind an underscore marker, data are printed as before, or else with fewer glyphs.** -/
theorem readEscaped_restore (t : Text) :
    ¬ Reopens t ∧ readEscaped '_' (restore t) = readEscaped '_' t ∨
      Reopens t ∧ (readEscaped '_' (restore t)).length < (readEscaped '_' t).length := by
  induction t using (exact_escapeCode '_').induction with
  | nil => exact Or.inl ⟨not_reopens_nil, rfl⟩
  | plain c cs h ih =>
      have hno : ¬ escapedUnderscore <+: c :: cs := by
        rintro ⟨z, hz⟩
        rw [← hz, escapeCode_escaped] at h
        exact absurd h (by simp)
      have h' : escapeCode '_' (c :: restore cs) = none := by rw [escapeCode_restore, h]
      rw [restore_cons hno, readEscaped_cons h, readEscaped_cons h', reopens_cons_iff hno]
      exact ih.imp (fun hsame => ⟨hsame.1, by rw [hsame.2]⟩)
        fun hless => ⟨hless.1, by simpa using hless.2⟩
  | hit t code n h ih =>
      obtain ⟨high, low, hv, lv, rest, rfl, hhigh, hlow, rfl, rfl⟩ := escapeCode_eq_some_iff.mp h
      change (¬ Reopens rest ∧ _) ∨ (Reopens rest ∧ _) at ih
      simp only [List.drop_succ_cons, List.drop_zero] at ih
      have hhigh' := ne_underscore_of_hexValue? hhigh
      have hlow' := ne_underscore_of_hexValue? hlow
      by_cases hcode : high = '5' ∧ low = 'f'
      · obtain ⟨rfl, rfl⟩ := hcode
        exact readEscaped_restore_escaped ih
      · have hno : ¬ escapedUnderscore <+: '_' :: high :: low :: rest := by
          intro hpre
          simp only [escapedUnderscore, List.cons_prefix_cons] at hpre
          exact hcode ⟨hpre.2.1.symm, hpre.2.2.1.symm⟩
        rw [restore_cons hno, restore_cons_of_ne hhigh', restore_cons_of_ne hlow',
          readEscaped_escape hhigh hlow, readEscaped_escape hhigh hlow, reopens_cons_iff hno,
          reopens_cons_of_ne hhigh', reopens_cons_of_ne hlow']
        exact ih.imp (fun hsame => ⟨hsame.1, by rw [hsame.2]⟩)
          fun hless => ⟨hless.1, by simpa using hless.2⟩

/-- Behind a marker with another escape character a code is three glyphs, and one when restored. -/
theorem length_readEscaped_restore {escape : Char} (hdefault : escape ≠ '_') (h5 : escape ≠ '5')
    (hf : escape ≠ 'f') (t : Text) :
    (readEscaped escape (restore t)).length ≤ (readEscaped escape t).length ∧
      (escapedUnderscore <:+: t →
        (readEscaped escape (restore t)).length < (readEscaped escape t).length) := by
  induction t using (exact_escapeCode escape).induction with
  | nil => exact ⟨Nat.le_refl _, fun h => absurd (List.infix_nil.mp h) (by decide)⟩
  | plain c cs h ih =>
      by_cases hcode : escapedUnderscore <+: c :: cs
      · obtain ⟨z, hz⟩ := hcode
        obtain ⟨rfl, rfl⟩ := List.cons.inj (show '_' :: '5' :: 'f' :: z = c :: cs from hz)
        have hrest := ih.1
        rw [restore_cons_of_ne (by decide), restore_cons_of_ne (by decide),
          readEscaped_cons_of_ne (Ne.symm h5), readEscaped_cons_of_ne (Ne.symm hf),
          readEscaped_cons_of_ne (Ne.symm h5), readEscaped_cons_of_ne (Ne.symm hf)] at hrest
        rw [← hz, restore_escaped, readEscaped_cons_of_ne (Ne.symm hdefault), hz,
          readEscaped_cons_of_ne (Ne.symm hdefault), readEscaped_cons_of_ne (Ne.symm h5),
          readEscaped_cons_of_ne (Ne.symm hf)]
        simp only [List.length_cons] at hrest ⊢
        exact ⟨by omega, fun _ => by omega⟩
      · have h' : escapeCode escape (c :: restore cs) = none := by rw [escapeCode_restore, h]
        rw [restore_cons hcode, readEscaped_cons h, readEscaped_cons h', List.infix_cons_iff]
        simp only [List.length_cons]
        exact ⟨by omega, fun hin => by have := ih.2 (hin.resolve_left hcode); omega⟩
  | hit t code n h ih =>
      obtain ⟨high, low, hv, lv, rest, rfl, hhigh, hlow, rfl, rfl⟩ := escapeCode_eq_some_iff.mp h
      simp only [List.drop_succ_cons, List.drop_zero] at ih
      have hhigh' := ne_underscore_of_hexValue? hhigh
      have hlow' := ne_underscore_of_hexValue? hlow
      have hcode : escapedUnderscore <:+: escape :: high :: low :: rest ↔
          escapedUnderscore <:+: rest := by
        simp [List.infix_cons_iff, escapedUnderscore, Ne.symm hdefault, Ne.symm hhigh',
          Ne.symm hlow']
      rw [restore_cons_of_ne hdefault, restore_cons_of_ne hhigh', restore_cons_of_ne hlow',
        readEscaped_escape hhigh hlow, readEscaped_escape hhigh hlow, hcode]
      simp only [List.length_cons]
      exact ⟨by omega, fun hin => by have := ih.2 hin; omega⟩

/-! ## When data are printed as before -/

/-- Are data with this escape character, or without a marker, printed as before? -/
def Keeps : Option Char → Text → Prop
  | none, t => ¬ HasEscape '_' t
  | some escape, t => if escape = '_' then ¬ Reopens t else ¬ escapedUnderscore <:+: t

instance : (escape? : Option Char) → (t : Text) → Decidable (Keeps escape? t)
  | none, t => inferInstanceAs (Decidable (¬ HasEscape '_' t))
  | some escape, _ => inferInstanceAs (Decidable (if escape = '_' then _ else _))

theorem read_restore_of_keeps {escape? : Option Char} {t : Text} (h : Keeps escape? t) :
    Printer.read (some (escape?.getD defaultEscape)) (restore t) = Printer.read escape? t := by
  cases escape? with
  | none => exact (readEscaped_restore_eq_map_iff t).mpr h
  | some escape =>
      rw [Keeps] at h
      split at h
      · rename_i hdefault
        subst hdefault
        exact (readEscaped_restore t).elim And.right fun hless => absurd hless.1 h
      · rw [restore, replaceAll_eq_self h]
        rfl

/-- Only for an escape character that is a digit of the code is this left open. -/
theorem keeps_of_read_restore {escape? : Option Char} {t : Text}
    (h5 : escape? ≠ some '5') (hf : escape? ≠ some 'f')
    (h : Printer.read (some (escape?.getD defaultEscape)) (restore t) = Printer.read escape? t) :
    Keeps escape? t := by
  cases escape? with
  | none => exact (readEscaped_restore_eq_map_iff t).mp h
  | some escape =>
      have hlength : (readEscaped escape (restore t)).length = (readEscaped escape t).length :=
        congrArg List.length h
      rw [Keeps]
      split
      · rename_i hdefault
        subst hdefault
        exact (readEscaped_restore t).elim And.left fun hless => by omega
      · rename_i hdefault
        intro hcode
        have := (length_readEscaped_restore hdefault (by simpa using h5) (by simpa using hf) t).2
          hcode
        omega

/-! ## Data that were encoded -/

/-- A digit of a code is no letter that is written by its code. -/
theorem encodeChar_of_hexValue? {c : Char} {n : Nat} (h : hexValue? c = some n) :
    CodePage.encodeChar '_' c = [c] := by
  have hall : ∀ entry ∈ CodePage.codes, hexValue? entry.1 = none := by decide
  unfold CodePage.encodeChar
  rw [if_neg (ne_underscore_of_hexValue? h)]
  unfold CodePage.escapeLetter
  split
  · rename_i code hcode
    obtain ⟨⟨c', code'⟩, hfind, _⟩ := Option.map_eq_some_iff.mp hcode
    have hc : c' = c := by simpa using List.find?_some hfind
    have hnone := hall _ (List.mem_of_find?_eq_some hfind)
    rw [hc, h] at hnone
    exact absurd hnone (by simp)
  · rfl

/-- What a letter is written as begins with the underscore, but is not its code. -/
theorem encodeChar_of_code? {c : Char} {code : Nat} (hc : c ≠ '_')
    (h : CodePage.code? c = some code) :
    ∃ a b, CodePage.encodeChar '_' c = ['_', a, b] ∧ a ≠ '_' ∧ b ≠ '_' ∧ a ≠ '5' := by
  have hall : ∀ entry ∈ CodePage.codes, 128 ≤ entry.2 := by decide
  have hle : 128 ≤ code := by
    obtain ⟨entry, hfind, rfl⟩ := Option.map_eq_some_iff.mp h
    exact hall _ (List.mem_of_find?_eq_some hfind)
  obtain ⟨hlt, _⟩ := glyphOf_code h
  have hhigh := hexValue?_digitChar (show code / 16 < 16 by omega)
  have hlow := hexValue?_digitChar (show code % 16 < 16 by omega)
  refine ⟨_, _, ?_, ne_underscore_of_hexValue? hhigh, ne_underscore_of_hexValue? hlow, fun h5 => ?_⟩
  · simp [CodePage.encodeChar, hc, CodePage.escapeLetter, h, Text.hex_two hlt]
  · have hfive : hexValue? '5' = some 5 := by decide
    rw [h5, hfive] at hhigh
    have := Option.some.inj hhigh
    omega

theorem encode_cons (c : Char) (t : Text) :
    CodePage.encode '_' (c :: t) = CodePage.encodeChar '_' c ++ CodePage.encode '_' t :=
  List.flatMap_cons

/-- A digit at the front of an encoded text was at the front before. -/
theorem exists_cons_of_encode {c : Char} {n : Nat} {t u : Text}
    (h : CodePage.encode '_' t = c :: u) (hc : hexValue? c = some n) :
    ∃ t', t = c :: t' ∧ CodePage.encode '_' t' = u := by
  cases t with
  | nil => exact absurd h (by simp [CodePage.encode])
  | cons d t =>
      rw [encode_cons] at h
      by_cases hd : d = '_'
      · -- the code of an underscore begins with one
        subst hd
        exact absurd (List.cons.inj h).1.symm (ne_underscore_of_hexValue? hc)
      · cases hcode : CodePage.code? d with
        | some code =>
            obtain ⟨a, b, hchar, _⟩ := encodeChar_of_code? hd hcode
            rw [hchar] at h
            exact absurd (List.cons.inj h).1.symm (ne_underscore_of_hexValue? hc)
        | none =>
            have hchar : CodePage.encodeChar '_' d = [d] := by
              simp [CodePage.encodeChar, hd, CodePage.escapeLetter, hcode]
            rw [hchar] at h
            obtain ⟨rfl, rfl⟩ := List.cons.inj h
            exact ⟨t, rfl, rfl⟩

theorem escapeCode_encode (escape c : Char) (t : Text) :
    escapeCode escape (c :: CodePage.encode '_' t) = escapeCode escape (c :: t) :=
  escapeCode_cons_rewritten (fun hd => by rw [encode_cons, encodeChar_of_hexValue? hd]; rfl)
    exists_cons_of_encode escape c t

/-- In encoded data a code has digits behind it where the underscore had them. -/
theorem reopens_encode_iff (t : Text) : Reopens (CodePage.encode '_' t) ↔ HasEscape '_' t := by
  induction t with
  | nil => exact iff_of_false not_reopens_nil (not_hasEscape_nil '_')
  | cons c t ih =>
      rw [encode_cons, hasEscape_cons_iff]
      by_cases hc : c = '_'
      · subst hc
        have hchar : CodePage.encodeChar '_' '_' = escapedUnderscore := by decide
        rw [hchar, reopens_escaped, escapeCode_encode, ih]
      · have hnone : (escapeCode '_' (c :: t)).isSome ≠ true := by
          intro hsome
          obtain ⟨⟨_, _⟩, hsome⟩ := Option.isSome_iff_exists.mp hsome
          obtain ⟨_, _, _, _, _, heq, _⟩ := escapeCode_eq_some_iff.mp hsome
          exact hc (List.cons.inj heq).1
        rw [or_iff_right hnone, ← ih]
        cases hcode : CodePage.code? c with
        | some code =>
            obtain ⟨a, b, hchar, ha, hb, h5⟩ := encodeChar_of_code? hc hcode
            rw [hchar]
            have hno : ¬ escapedUnderscore <+: '_' :: a :: b :: CodePage.encode '_' t := by
              intro hpre
              simp only [escapedUnderscore, List.cons_prefix_cons] at hpre
              exact h5 hpre.2.1.symm
            change Reopens ('_' :: a :: b :: CodePage.encode '_' t) ↔ _
            rw [reopens_cons_iff hno, reopens_cons_of_ne ha, reopens_cons_of_ne hb]
        | none =>
            have hchar : CodePage.encodeChar '_' c = [c] := by
              simp [CodePage.encodeChar, hc, CodePage.escapeLetter, hcode]
            rw [hchar]
            exact reopens_cons_of_ne hc _

/-! ## Cleaned statements -/

/--
**What a statement prints after the two steps that touch data.**

For every record of a text or a bar code without a data command in its value, the cleaned document
has one with the same number. It has the escape character that the statement had, or the default if
it had no marker, and its value is restored. So it prints what it printed before if `Keeps` holds;
and only then, unless the escape character is itself a digit of the code that is restored. In
particular a value that was encoded with the underscore is still printed as it was typed exactly if
it has no underscore with two hexadecimal digits behind it.
-/
theorem cleaned_statement_prints {kind : FieldKind} (hkind : kind ≠ .image) {t : Text} {r : Record}
    (hr : r ∈ records kind t) (hvalue : ¬ Command.fieldData <:+: r.value) :
    let cleaned := restoreUnderscores (ensureHexMarkers t)
    let escape? := markerEscape? r.statement.middle
    (records kind cleaned).length = (records kind t).length ∧
      ∃ r' ∈ records kind cleaned, r'.ordinal = r.ordinal ∧
        markerEscape? r'.statement.middle = some (escape?.getD defaultEscape) ∧
        r'.value = replaceAll escapedUnderscore ['_'] r.value ∧
        (Keeps escape? r.value → r'.statement.printed = r.statement.printed) ∧
        (escape? ≠ some '5' → escape? ≠ some 'f' →
          r'.statement.printed = r.statement.printed → Keeps escape? r.value) ∧
        ∀ v, escape? = some '_' → r.value = CodePage.encode '_' v →
          (r'.statement.printed = v.map .letter ↔ ¬ HasEscape '_' v) := by
  intro cleaned escape?
  have hmarked := forall₂_found_addMarkers hkind [] t
  have hrestored := forall₂_found_restoreFrom hkind false (addMarkers [] t)
  obtain ⟨r₁, hr₁, hordinal₁, seen, hstatement₁⟩ := exists_mem_records_of_forall₂ hmarked hr
  obtain ⟨r₂, hr₂, hordinal₂, inData, hstatement₂⟩ := exists_mem_records_of_forall₂ hrestored hr₁
  obtain ⟨hkind', hvalid⟩ := kind_valid_of_mem_records hr
  obtain ⟨hkind₁, hvalid₁⟩ := kind_valid_of_mem_records hr₁
  have hkind₁ : r₁.kind ≠ .image := by rw [hkind₁]; exact hkind
  have hescape : markerEscape? r₂.statement.middle = some (escape?.getD defaultEscape) := by
    rw [hstatement₂, markerEscape?_restored hvalid₁ hkind₁, hstatement₁,
      markerEscape?_marked hvalid]
  have hdata : r₂.value = restore r.value := by
    rw [Record.value, hstatement₂, hstatement₁]
    change restore (addMarkers _ r.value) = _
    rw [addMarkers_eq_self hvalue]
  have hprinted : r₂.statement.printed =
      Printer.read (some (escape?.getD defaultEscape)) (restore r.value) := by
    rw [Statement.printed, hescape]
    exact congrArg _ hdata
  refine ⟨?_, r₂, hr₂, hordinal₂.trans hordinal₁, hescape, hdata, ?_, ?_, ?_⟩
  · have hlength := hmarked.length_eq.trans hrestored.length_eq
    rw [← map_statement_records, ← map_statement_records, List.length_map, List.length_map]
      at hlength
    exact hlength.symm
  · intro hkeeps
    rw [hprinted, read_restore_of_keeps hkeeps]
    rfl
  · intro h5 hf hsame
    exact keeps_of_read_restore h5 hf (hprinted.symm.trans hsame)
  · intro v hv hencoded
    have hkeeps : Keeps escape? r.value ↔ ¬ HasEscape '_' v := by
      rw [hv, hencoded, Keeps, if_pos rfl, reopens_encode_iff]
    have hread : Printer.read escape? r.value = v.map .letter := by
      rw [hv, hencoded]
      exact readEscaped_encode (by decide) v
    rw [← hkeeps, hprinted, ← hread]
    exact ⟨keeps_of_read_restore (by rw [hv]; decide) (by rw [hv]; decide), read_restore_of_keeps⟩

/-- A text with an accented letter and an underscore, both encoded, prints what was typed. -/
theorem cleaned_statement_prints_of_letter_and_underscore :
    let document := "^FT1,2^FH^FD_82_5fx^FS".toList
    let r : Record := ⟨0, 0, ⟨.text, ['1'], ['2'], "^FH".toList, "_82_5fx".toList⟩⟩
    r ∈ records .text document ∧ ¬ Command.fieldData <:+: r.value ∧
      ∃ r' ∈ records .text (restoreUnderscores (ensureHexMarkers document)),
        r'.value = "_82_x".toList ∧ r'.statement.printed = "é_x".toList.map .letter := by
  intro document r
  have hkind : FieldKind.text ≠ .image := by decide
  have hr : r ∈ records .text document := by decide
  have hvalue : ¬ Command.fieldData <:+: r.value := by decide
  obtain ⟨_, r', hr', _, _, hdata, _, _, htyped⟩ := cleaned_statement_prints hkind hr hvalue
  have hprints := (htyped "é_x".toList (by decide) (by decide)).mpr (by decide)
  exact ⟨hr, hvalue, r', hr', by rw [hdata]; decide, hprints⟩

/-- A typed underscore with two hexadecimal digits behind it is printed as another letter. -/
theorem restored_underscore_begins_escape :
    let document := "^FT1,2^FDa^FS".toList
    let fields := (Extraction.fields document).map (·.withValue "_41".toList)
    let regenerated := Regeneration.regenerate true document fields
    ∃ r ∈ records .text regenerated,
      ∃ r' ∈ records .text (restoreUnderscores (ensureHexMarkers regenerated)),
        r'.ordinal = r.ordinal ∧ ¬ Command.fieldData <:+: r.value ∧
          r.statement.printed = "_41".toList.map .letter ∧
          r'.statement.printed = "A".toList.map .letter ∧
          r'.statement.printed ≠ r.statement.printed := by
  intro document fields regenerated
  have hselected : (Regeneration.select (Regeneration.replacements true document fields)).1 =
      [⟨0, 13, "^FT1,2^FH^FD_5f41^FS".toList⟩] := by decide
  have hregenerated : regenerated = "^FT1,2^FH^FD_5f41^FS".toList := by
    change Regeneration.regenerate true document fields = _
    rw [Regeneration.regenerate, if_neg (by decide), Regeneration.splice, hselected,
      List.mergeSort_singleton]
    decide
  rw [hregenerated]
  exact ⟨⟨0, 0, ⟨.text, ['1'], ['2'], "^FH".toList, "_5f41".toList⟩⟩, by decide,
    ⟨0, 0, ⟨.text, ['1'], ['2'], "^FH".toList, "_41".toList⟩⟩, by decide, rfl, by decide, by decide,
    by decide, by decide⟩

end LabelTemplate.Cleaning
