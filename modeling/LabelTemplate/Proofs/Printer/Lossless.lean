import LabelTemplate.Proofs.Printer.Reading

/-!
# The escape encoding loses nothing

A template may choose any escape character, so it may be a digit of the very codes that it
introduces. What keeps the written text readable is that no letter of it is the escape
character any more: wherever that character stands, it begins an escape, or an escape that began
before it has taken it as a digit. So reading from the left never meets it in any other role.
-/

namespace LabelTemplate.Printer

open Scan

/-- Two hexadecimal digits stand at the beginning of this text. -/
def BeginsWithDigits (t : Text) : Prop :=
  ∃ high low rest, t = high :: low :: rest ∧
    (hexValue? high).isSome = true ∧ (hexValue? low).isSome = true

/-- An escape that is read from the left has taken this place as one of its two digits. -/
def TakenAsDigit (escape : Char) (t : Text) (i : Nat) : Prop :=
  ∃ k code, (k, code) ∈ hits (escapeCode escape) t ∧ k < i ∧ i < k + 3

/-- A character is written as it is, or as an escape. -/
theorem encodeChar_cases {escape : Char} (hascii : isAscii escape = true) (c : Char) :
    (c ≠ escape ∧ CodePage.encodeChar escape c = [c]) ∨
      ∃ high low h l, hexValue? high = some h ∧ hexValue? low = some l ∧
        CodePage.encodeChar escape c = [escape, high, low] := by
  have hcode : ∀ code < 256, ∃ high low h l, hexValue? high = some h ∧ hexValue? low = some l ∧
      escape :: Text.hex 2 code = [escape, high, low] := by
    intro code hlt
    refine ⟨_, _, _, _, hexValue?_digitChar (show code / 16 < 16 by omega),
      hexValue?_digitChar (Nat.mod_lt code (by decide)), ?_⟩
    rw [Text.hex_two hlt]
  unfold CodePage.encodeChar
  split
  · have hlt : escape.toNat < 128 := by simpa [isAscii] using hascii
    exact .inr (hcode escape.toNat (by omega))
  · rename_i hc
    unfold CodePage.escapeLetter
    split
    · rename_i code hletter
      exact .inr (hcode code (glyphOf_code hletter).1)
    · exact .inl ⟨hc, rfl⟩

/-- **No letter of a written text is the escape character.** -/
theorem begins_or_taken {escape : Char} (hascii : isAscii escape = true) (t : Text)
    (offset i : Nat) (hi : (CodePage.encode escape t)[i]? = some escape) :
    BeginsWithDigits ((CodePage.encode escape t).drop (i + 1)) ∨
      ∃ k code, (k, code) ∈ hitsFrom offset (pieces (escapeCode escape)
        (CodePage.encode escape t)) ∧ k < offset + i ∧ offset + i < k + 3 := by
  induction t generalizing offset i with
  | nil => exact absurd hi (by simp [CodePage.encode])
  | cons c t ih =>
      have hcons : CodePage.encode escape (c :: t) =
          CodePage.encodeChar escape c ++ CodePage.encode escape t := List.flatMap_cons
      rw [hcons] at hi ⊢
      rcases encodeChar_cases hascii c with ⟨hc, hchar⟩ | ⟨high, low, h, l, hhigh, hlow, hchar⟩
      · rw [hchar, List.singleton_append] at hi ⊢
        have hnone : escapeCode escape (c :: CodePage.encode escape t) = none := by
          refine Option.eq_none_iff_forall_ne_some.mpr ?_
          rintro ⟨code, n⟩ hcode
          refine hc ?_
          obtain ⟨_, _, _, _, _, heq, _⟩ := escapeCode_eq_some_iff.mp hcode
          exact (List.cons.inj heq).1
        rw [pieces_of_none hnone, hitsFrom]
        cases i with
        | zero => exact absurd (Option.some.inj hi) hc
        | succ i =>
            rcases ih (offset + 1) i hi with hdigits | ⟨k, code, hk, hbefore, hbehind⟩
            · exact .inl hdigits
            · exact .inr ⟨k, code, hk, by omega, by omega⟩
      · rw [hchar] at hi ⊢
        have hsome : escapeCode escape ([escape, high, low] ++ CodePage.encode escape t) =
            some (16 * h + l, 3) :=
          escapeCode_eq_some_iff.mpr ⟨high, low, h, l, _, rfl, hhigh, hlow, rfl, rfl⟩
        rw [pieces_of_some hsome (by decide) (by simp), hitsFrom]
        -- the escape itself, its two digits, and what stands behind it
        rcases i with _ | _ | _ | i
        · exact .inl ⟨high, low, _, rfl, by rw [hhigh]; rfl, by rw [hlow]; rfl⟩
        · exact .inr ⟨offset, _, List.mem_cons_self, by omega, by omega⟩
        · exact .inr ⟨offset, _, List.mem_cons_self, by omega, by omega⟩
        · rcases ih (offset + 3) i hi with hdigits | ⟨k, code, hk, hbefore, hbehind⟩
          · exact .inl hdigits
          · exact .inr ⟨k, code, List.mem_cons_of_mem _ hk, by omega, by omega⟩

/-! ## When a hex marker is needed -/

/-- The escape character stands in a written text if something had to be escaped. -/
theorem escape_mem_encode_iff {escape : Char} {t : Text} :
    escape ∈ CodePage.encode escape t ↔
      escape ∈ t ∨ ∃ c ∈ t, (CodePage.code? c).isSome = true := by
  constructor
  · intro h
    by_contra hno
    rw [not_or, not_exists] at hno
    have hself : CodePage.encode escape t = t := by
      have hchar : ∀ c ∈ t, CodePage.encodeChar escape c = [c] := by
        intro c hc
        have hcode : CodePage.code? c = none := by simpa [hc] using hno.2 c
        rw [CodePage.encodeChar, if_neg fun heq : c = escape => hno.1 (heq ▸ hc),
          CodePage.escapeLetter, hcode]
      rw [CodePage.encode, List.flatMap_congr hchar, List.flatMap_singleton']
    exact hno.1 (hself ▸ h)
  · have hmem : ∀ c ∈ t, escape ∈ CodePage.encodeChar escape c →
        escape ∈ CodePage.encode escape t :=
      fun c hc h => List.mem_flatMap.mpr ⟨c, hc, h⟩
    rintro (h | ⟨c, hc, hcode⟩)
    · exact hmem escape h (by rw [CodePage.encodeChar, if_pos rfl]; exact List.mem_cons_self)
    · obtain ⟨code, hcode⟩ := Option.isSome_iff_exists.mp hcode
      refine hmem c hc ?_
      rw [CodePage.encodeChar, CodePage.escapeLetter, hcode]
      split <;> simp

/--
**The escape encoding is lossless, whatever ASCII character a template escapes with.**

What is written is read back from the left; in it the escape character is always followed by
two hexadecimal digits or is itself read as one; no other text is written the same; and it
needs a hex marker just if the text has the escape character or a letter that is written by its
code.
-/
theorem encoding_is_lossless {escape : Char} (hascii : isAscii escape = true) (t : Text) :
    ∃ written, CodePage.encodeBy [escape] true t = .ok written ∧
      readEscaped escape written = t.map .letter ∧
      (∀ i, written[i]? = some escape →
        BeginsWithDigits (written.drop (i + 1)) ∨ TakenAsDigit escape written i) ∧
      (∀ u, CodePage.encodeBy [escape] true u = .ok written → u = t) ∧
      (CodePage.needsMarker [escape] written = true ↔
        escape ∈ t ∨ ∃ c ∈ t, (CodePage.code? c).isSome = true) := by
  refine ⟨CodePage.encode escape t, rfl, readEscaped_encode hascii t, fun i hi => ?_, ?_, ?_⟩
  · have hplace := begins_or_taken hascii t 0 i hi
    rwa [Nat.zero_add] at hplace
  · intro u hu
    have hwritten : CodePage.encode escape u = CodePage.encode escape t := Except.ok.inj hu
    have hread : u.map Glyph.letter = t.map Glyph.letter := by
      rw [← readEscaped_encode hascii u, hwritten, readEscaped_encode hascii t]
    exact List.map_injective_iff.mpr (fun _ _ h => Glyph.letter.inj h) hread
  · rw [CodePage.needsMarker, Text.contains_iff (by simp), List.singleton_infix_iff,
      escape_mem_encode_iff]

/-- The escape character may be a digit of a code: `a` is written `a61`, and `á` is `aa0`. -/
theorem encoding_is_lossless_of_digit :
    isAscii 'a' = true ∧ CodePage.encodeBy ['a'] true "aáz".toList = .ok "a61aa0z".toList ∧
      readEscaped 'a' "a61aa0z".toList = "aáz".toList.map .letter ∧
      TakenAsDigit 'a' "a61aa0z".toList 4 ∧
      CodePage.needsMarker ['a'] "a61aa0z".toList = true := by
  obtain ⟨written, hwritten, hread, hplace, _, hmarker⟩ :=
    @encoding_is_lossless 'a' (by decide) "aáz".toList
  have hvalue : CodePage.encodeBy ['a'] true "aáz".toList = .ok "a61aa0z".toList := by decide
  obtain rfl : "a61aa0z".toList = written := Except.ok.inj (hvalue.symm.trans hwritten)
  refine ⟨by decide, hvalue, hread, ?_, hmarker.mpr (.inl (by decide))⟩
  rcases hplace 4 (by decide) with ⟨high, low, rest, heq, _, hlow⟩ | htaken
  · -- behind it stands `0z`, and `z` is no digit
    obtain ⟨_, heq⟩ := List.cons.inj heq
    obtain ⟨rfl, _⟩ := List.cons.inj heq
    exact absurd hlow (by decide)
  · exact htaken

end LabelTemplate.Printer
