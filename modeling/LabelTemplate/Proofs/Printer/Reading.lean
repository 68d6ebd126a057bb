import LabelTemplate.CodePage
import LabelTemplate.Proofs.Scan.Pieces
import LabelTemplate.Proofs.Text.Occurrence
import Mathlib.Data.List.Infix
import LabelTemplate.Statement.Basic

/-!
# What the printer reads

Data without a hex marker is printed as it stands. With one, the escape character and two
hexadecimal digits are one code of the printer's character set, and everything else stands
for itself. A code with a letter that is known here is that letter, so it makes no difference how
the letter was written; any other code is kept as its number.

Reading escapes is a scan, so an escape character that is itself a hexadecimal digit needs
no care: what belongs to an escape already does not begin another one.

`readEscaped_encode` is the law of the encoder: whatever it writes is read back.
-/

namespace LabelTemplate

namespace Printer

open Scan

/-- One thing that is printed. -/
inductive Glyph where
  /-- A letter. -/
  | letter (c : Char)
  /-- A code whose letter is not known here. -/
  | code (n : Nat)
deriving DecidableEq, Repr

/-- The letter of a code: ASCII, or one of the letters that are written by their code. -/
def letterOf? (code : Nat) : Option Char :=
  if code < 0x80 then some (Char.ofNat code)
  else (CodePage.codes.find? (·.2 == code)).map Prod.fst

/-- What a code prints. -/
def glyphOf (code : Nat) : Glyph :=
  match letterOf? code with
  | some c => .letter c
  | none => .code code

/-- An escape at the beginning of a text: the escape character and two hexadecimal digits. -/
def escapeCode (escape : Char) : Recogniser Nat
  | c :: high :: low :: _ =>
    if c = escape then do
      let h ← hexValue? high
      let l ← hexValue? low
      pure (16 * h + l, 3)
    else none
  | _ => none

/-- What a part of the data prints. -/
def glyph : Piece Nat → Glyph
  | .plain c => .letter c
  | .hit code _ => glyphOf code

/-- What data with escapes prints. -/
def readEscaped (escape : Char) (data : Text) : List Glyph :=
  (pieces (escapeCode escape) data).map glyph

/-- What data prints, behind a hex marker with an escape character or without a marker. -/
def read : Option Char → Text → List Glyph
  | none, data => data.map .letter
  | some escape, data => readEscaped escape data

end Printer

/-- What a statement prints: its data, by the first hex marker between coordinates and data. -/
def Statement.printed (s : Statement) : List Printer.Glyph :=
  Printer.read (markerEscape? s.middle) s.value

/-! ## The escape character that is chosen -/

namespace Statement

open Text Command

/-- What chooses the escape character is the character behind the marker. -/
theorem escapeAfter_of_head?_eq {t u : Text} (h : t.head? = u.head?) :
    escapeAfter t = escapeAfter u := by
  cases t with
  | nil => rw [List.head?_nil, eq_comm, List.head?_eq_none_iff] at h; rw [h]
  | cons c cs =>
      obtain ⟨us, rfl⟩ := List.head?_eq_some_iff.mp h.symm
      rfl

/-- A marker at the end of a middle chooses the default, unless another one has chosen before. -/
theorem markerEscape?_append_hexMarker (m : Text) :
    markerEscape? (m ++ hexMarker) = some ((markerEscape? m).getD defaultEscape) := by
  cases hcut : cut? hexMarker m with
  | none =>
      have hno : ¬ hexMarker <:+: m := (cut?_eq_none_iff isCommand_hexMarker.ne_nil).mp hcut
      have happend : cut? hexMarker (m ++ hexMarker) = some (m, []) :=
        (cut?_eq_some_iff isCommand_hexMarker).mpr ⟨by simp, hno⟩
      rw [markerEscape?, markerEscape?, happend, hcut]
      rfl
  | some found =>
      obtain ⟨before, after⟩ := found
      obtain ⟨rfl, hno⟩ := (cut?_eq_some_iff isCommand_hexMarker).mp hcut
      have happend : cut? hexMarker (before ++ hexMarker ++ after ++ hexMarker) =
          some (before, after ++ hexMarker) :=
        (cut?_eq_some_iff isCommand_hexMarker).mpr ⟨by simp, hno⟩
      rw [markerEscape?, markerEscape?, happend, hcut]
      -- behind a marker at the very end stands the caret of the new one, which is no escape
      cases after <;> rfl

end Statement

/-! ## Hexadecimal digits -/

theorem hexValue?_digitChar {d : Nat} (h : d < 16) : hexValue? (Nat.digitChar d) = some d := by
  have hall : ∀ d < 16, hexValue? (Nat.digitChar d) = some d := by decide
  exact hall d h

/-- A code is written with two digits. -/
theorem Text.hex_two {n : Nat} (h : n < 256) :
    Text.hex 2 n = [Nat.digitChar (n / 16), Nat.digitChar (n % 16)] := by
  by_cases hn : n < 16
  · rw [Text.hex, Nat.toDigits_of_lt_base hn, Nat.div_eq_of_lt hn, Nat.mod_eq_of_lt hn]
    rfl
  · have hsplit := Nat.toDigits_append_toDigits (b := 16) (n := n / 16) (d := n % 16)
      (by decide) (by omega) (Nat.mod_lt n (by decide))
    rw [Nat.div_add_mod, Nat.toDigits_of_lt_base (show n / 16 < 16 by omega),
      Nat.toDigits_of_lt_base (Nat.mod_lt n (by decide))] at hsplit
    rw [Text.hex, ← hsplit]
    rfl

namespace Printer

open Scan

/-! ## Reading escapes -/

theorem escapeCode_eq_some_iff {escape : Char} {t : Text} {code n : Nat} :
    escapeCode escape t = some (code, n) ↔
      ∃ high low h l rest, t = escape :: high :: low :: rest ∧ hexValue? high = some h ∧
        hexValue? low = some l ∧ code = 16 * h + l ∧ n = 3 := by
  constructor
  · intro heq
    unfold escapeCode at heq
    split at heq
    · rename_i c high low rest
      split at heq
      · rename_i hc
        obtain ⟨h, hh, heq⟩ := Option.bind_eq_some_iff.mp heq
        obtain ⟨l, hl, heq⟩ := Option.bind_eq_some_iff.mp heq
        obtain ⟨rfl, rfl⟩ := Prod.mk.inj (Option.some.inj heq)
        exact ⟨high, low, h, l, rest, by rw [hc], hh, hl, rfl, rfl⟩
      · exact absurd heq (by simp)
    · exact absurd heq (by simp)
  · rintro ⟨high, low, h, l, rest, rfl, hh, hl, rfl, rfl⟩
    simp [escapeCode, hh, hl]

theorem exact_escapeCode (escape : Char) : Exact (escapeCode escape) := by
  intro t code n h
  obtain ⟨high, low, _, _, rest, rfl, _, _, _, rfl⟩ := escapeCode_eq_some_iff.mp h
  exact ⟨by decide, by simp⟩

@[simp] theorem readEscaped_nil (escape : Char) : readEscaped escape [] = [] := rfl

/-- A character that begins no escape stands for itself. -/
theorem readEscaped_cons {escape c : Char} {t : Text} (h : escapeCode escape (c :: t) = none) :
    readEscaped escape (c :: t) = .letter c :: readEscaped escape t := by
  rw [readEscaped, pieces_of_none h]
  rfl

theorem readEscaped_cons_of_ne {escape c : Char} {t : Text} (h : c ≠ escape) :
    readEscaped escape (c :: t) = .letter c :: readEscaped escape t := by
  refine readEscaped_cons (Option.eq_none_iff_forall_ne_some.mpr fun ⟨code, n⟩ hcode => h ?_)
  obtain ⟨_, _, _, _, _, heq, _⟩ := escapeCode_eq_some_iff.mp hcode
  exact (List.cons.inj heq).1

theorem readEscaped_of_some {escape : Char} {t : Text} {code n : Nat}
    (h : escapeCode escape t = some (code, n)) :
    readEscaped escape t = glyphOf code :: readEscaped escape (t.drop n) := by
  obtain ⟨hpos, hle⟩ := exact_escapeCode _ _ _ _ h
  rw [readEscaped, pieces_of_some h hpos hle]
  rfl

/-- An escape is one code, whatever follows it. -/
theorem readEscaped_escape {escape high low : Char} {h l : Nat} (hhigh : hexValue? high = some h)
    (hlow : hexValue? low = some l) (t : Text) :
    readEscaped escape (escape :: high :: low :: t) =
      glyphOf (16 * h + l) :: readEscaped escape t :=
  readEscaped_of_some (escapeCode_eq_some_iff.mpr ⟨high, low, h, l, t, rfl, hhigh, hlow, rfl, rfl⟩)

/-- A code that is written by two digits is read as that code. -/
theorem readEscaped_hex {escape : Char} {code : Nat} (h : code < 256) (t : Text) :
    readEscaped escape (escape :: Text.hex 2 code ++ t) =
      glyphOf code :: readEscaped escape t := by
  rw [Text.hex_two h]
  have hread := @readEscaped_escape escape _ _ _ _
    (hexValue?_digitChar (show code / 16 < 16 by omega))
    (hexValue?_digitChar (Nat.mod_lt code (by decide))) t
  rw [Nat.div_add_mod] at hread
  exact hread

/-- An escape stands somewhere in this text. -/
def HasEscape (escape : Char) (t : Text) : Prop :=
  ∃ u ∈ t.tails, (escapeCode escape u).isSome = true

instance (escape : Char) (t : Text) : Decidable (HasEscape escape t) :=
  inferInstanceAs (Decidable (∃ u ∈ t.tails, _))

theorem not_hasEscape_nil (escape : Char) : ¬ HasEscape escape [] := by
  simp [HasEscape, escapeCode]

theorem hasEscape_cons_iff {escape c : Char} {t : Text} :
    HasEscape escape (c :: t) ↔
      (escapeCode escape (c :: t)).isSome = true ∨ HasEscape escape t := by
  simp [HasEscape]

/-- What has no escape is printed as it stands. -/
theorem readEscaped_of_not_hasEscape {escape : Char} {t : Text} (h : ¬ HasEscape escape t) :
    readEscaped escape t = t.map .letter := by
  induction t with
  | nil => rfl
  | cons c t ih =>
      rw [hasEscape_cons_iff, not_or] at h
      rw [readEscaped_cons (by simpa using h.1), ih h.2]
      rfl

/-- An escape is more than one character, but one glyph. -/
theorem length_readEscaped (escape : Char) (t : Text) :
    (readEscaped escape t).length ≤ t.length ∧
      (HasEscape escape t → (readEscaped escape t).length < t.length) := by
  induction t using (exact_escapeCode escape).induction with
  | nil => exact ⟨Nat.le_refl _, fun h => absurd h (not_hasEscape_nil escape)⟩
  | plain c cs h ih =>
      rw [readEscaped_cons h, hasEscape_cons_iff, h]
      simp only [List.length_cons]
      exact ⟨by omega, fun hhas => by have := ih.2 (by simpa using hhas); omega⟩
  | hit t code n h ih =>
      rw [readEscaped_of_some h]
      obtain ⟨high, low, _, _, rest, rfl, _, _, _, rfl⟩ := escapeCode_eq_some_iff.mp h
      simp only [List.drop_succ_cons, List.drop_zero, List.length_cons] at ih ⊢
      exact ⟨by omega, fun _ => by omega⟩

/-! ## Reading what was encoded -/

theorem glyphOf_toNat {c : Char} (h : isAscii c = true) : glyphOf c.toNat = .letter c := by
  have hlt : c.toNat < 128 := by simpa [isAscii] using h
  simp [glyphOf, letterOf?, hlt]

/-- Every letter that is written by its code is the letter of that code. -/
theorem glyphOf_code {c : Char} {code : Nat} (h : CodePage.code? c = some code) :
    code < 256 ∧ glyphOf code = .letter c := by
  have hall : ∀ entry ∈ CodePage.codes, entry.2 < 256 ∧ glyphOf entry.2 = .letter entry.1 := by
    decide
  obtain ⟨⟨c', code'⟩, hfind, rfl⟩ := Option.map_eq_some_iff.mp h
  have hmem := hall _ (List.mem_of_find?_eq_some hfind)
  have hc : c' = c := by simpa using List.find?_some hfind
  exact hc ▸ hmem

theorem readEscaped_encodeChar {escape : Char} (hascii : isAscii escape = true) (c : Char)
    (t : Text) :
    readEscaped escape (CodePage.encodeChar escape c ++ t) = .letter c :: readEscaped escape t := by
  unfold CodePage.encodeChar
  split
  · rename_i hc
    subst hc
    have hlt : c.toNat < 256 := by
      have : c.toNat < 128 := by simpa [isAscii] using hascii
      omega
    rw [readEscaped_hex hlt, glyphOf_toNat hascii]
  · rename_i hc
    unfold CodePage.escapeLetter
    split
    · rename_i code hcode
      obtain ⟨hlt, hglyph⟩ := glyphOf_code hcode
      rw [← hglyph]
      exact readEscaped_hex hlt t
    · exact readEscaped_cons_of_ne hc

/-- **What was encoded is read back.** -/
theorem readEscaped_encode {escape : Char} (hascii : isAscii escape = true) (t : Text) :
    readEscaped escape (CodePage.encode escape t) = t.map .letter := by
  induction t with
  | nil => rfl
  | cons c t ih =>
      rw [CodePage.encode, List.flatMap_cons, readEscaped_encodeChar hascii, List.map_cons,
        ← CodePage.encode, ih]

/-- Where nothing had to be escaped, the text is written as it is. -/
theorem encode_eq_self {escape : Char} {t : Text} (h : escape ∉ CodePage.encode escape t) :
    CodePage.encode escape t = t := by
  induction t with
  | nil => rfl
  | cons c t ih =>
      rw [CodePage.encode, List.flatMap_cons, List.mem_append, not_or] at h
      rw [CodePage.encode, List.flatMap_cons, ← CodePage.encode, ih h.2]
      have hchar := h.1
      -- an escaped character begins with the escape
      unfold CodePage.encodeChar at hchar ⊢
      split at hchar
      · exact absurd List.mem_cons_self hchar
      · rename_i hc
        unfold CodePage.escapeLetter at hchar ⊢
        rw [if_neg hc]
        split at hchar
        · exact absurd (by simp) hchar
        · rfl

end Printer

end LabelTemplate
