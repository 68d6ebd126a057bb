import LabelTemplate.Text.Utf8
import Mathlib.Tactic.SplitIfs

/-!
# Texts as bytes and back

Every text is read back from its bytes (`decode_encode`). The first byte of a character announces
how many follow and narrows the range of the second one; that the second byte of a character lies
in this range is what excludes longer forms than needed, halves of pairs and what is beyond the
last character.
-/

namespace LabelTemplate.Utf8

variable {p : Pending} {b : Nat}

theorem decodeFrom_cons (pending : Option Pending) (b : UInt8) (bs : List UInt8) :
    decodeFrom pending (b :: bs) =
      (step pending b.toNat).1 ++ decodeFrom (step pending b.toNat).2 bs := by
  cases pending <;> rfl

theorem toNat_toUInt8 (h : b < 256) : b.toUInt8.toNat = b := by
  simp [Nat.toUInt8]; omega

/-- A byte that is expected and not the last one. -/
theorem step_of_owed (hlow : p.low ≤ b) (hhigh : b ≤ p.high) (howed : 1 < p.owed) :
    step (some p) b = ([], some ⟨p.owed - 1, 0x80, 0xBF, p.bits * 64 + (b - 0x80)⟩) := by
  rw [step]
  simp only [hlow, hhigh, decide_true, Bool.and_self, if_true]
  rw [if_neg (by omega)]

/-- The last byte that is expected. -/
theorem step_of_last (hlow : p.low ≤ b) (hhigh : b ≤ p.high) (howed : p.owed = 1) :
    step (some p) b = ([Char.ofNat (p.bits * 64 + (b - 0x80))], none) := by
  rw [step]
  simp only [hlow, hhigh, decide_true, Bool.and_self, if_true]
  rw [if_pos (by omega)]

/-- A byte that begins a character of two. -/
theorem start_of_two (hlow : 0xC2 ≤ b) (hhigh : b ≤ 0xDF) :
    start b = ([], some ⟨1, 0x80, 0xBF, b - 0xC0⟩) := by
  rw [start, if_neg (by omega), if_pos (by simp; omega)]

/-- A byte that begins a character of three. -/
theorem start_of_three (hlow : 0xE0 ≤ b) (hhigh : b ≤ 0xEF) :
    start b = ([], some ⟨2, if b = 0xE0 then 0xA0 else 0x80, if b = 0xED then 0x9F else 0xBF,
      b - 0xE0⟩) := by
  rw [start, if_neg (by omega), if_neg (by simp; omega)]
  split_ifs <;> first | rfl | omega | (simp_all; omega)

/-- A byte that begins a character of four. -/
theorem start_of_four (hlow : 0xF0 ≤ b) (hhigh : b ≤ 0xF4) :
    start b = ([], some ⟨3, if b = 0xF0 then 0x90 else 0x80, if b = 0xF4 then 0x8F else 0xBF,
      b - 0xF0⟩) := by
  rw [start, if_neg (by omega), if_neg (by simp; omega), if_neg (by omega), if_neg (by omega),
    if_neg (by simp; omega)]
  split_ifs <;> first | rfl | omega | (simp_all; omega)

/-- **A character is read back from its bytes**, whatever follows them. -/
theorem decodeFrom_encodeChar (c : Char) (bs : List UInt8) :
    decodeFrom none (encodeChar c ++ bs) = c :: decodeFrom none bs := by
  have hvalid : c.toNat < 0xD800 ∨ 0xDFFF < c.toNat ∧ c.toNat < 0x110000 := c.valid
  have hc : Char.ofNat c.toNat = c := Char.ofNat_toNat c
  rw [encodeChar]
  generalize c.toNat = n at hvalid hc
  split_ifs with hone htwo hthree
  · rw [List.singleton_append, decodeFrom_cons, toNat_toUInt8 (by omega), step, start,
      if_pos hone, hc]
    rfl
  · have hbits : (0xC0 + n / 64 - 0xC0) * 64 + (0x80 + n % 64 - 0x80) = n := by omega
    rw [List.cons_append, List.singleton_append, decodeFrom_cons, toNat_toUInt8 (by omega), step,
      start_of_two (by omega) (by omega), List.nil_append, decodeFrom_cons,
      toNat_toUInt8 (by omega), step_of_last (by dsimp only; omega) (by dsimp only; omega) rfl]
    dsimp only
    rw [hbits, hc]
    rfl
  · have hbits : ((0xE0 + n / 4096 - 0xE0) * 64 + (0x80 + n / 64 % 64 - 0x80)) * 64 +
        (0x80 + n % 64 - 0x80) = n := by omega
    rw [List.cons_append, List.cons_append, List.singleton_append, decodeFrom_cons,
      toNat_toUInt8 (by omega), step, start_of_three (by omega) (by omega), List.nil_append,
      decodeFrom_cons, toNat_toUInt8 (by omega),
      step_of_owed (by dsimp only; split_ifs <;> omega) (by dsimp only; split_ifs <;> omega)
        (by simp),
      List.nil_append, decodeFrom_cons, toNat_toUInt8 (by omega),
      step_of_last (by dsimp only; omega) (by dsimp only; omega) rfl]
    dsimp only
    rw [hbits, hc]
    rfl
  · have hbits : (((0xF0 + n / 262144 - 0xF0) * 64 + (0x80 + n / 4096 % 64 - 0x80)) * 64 +
        (0x80 + n / 64 % 64 - 0x80)) * 64 + (0x80 + n % 64 - 0x80) = n := by omega
    rw [List.cons_append, List.cons_append, List.cons_append, List.singleton_append,
      decodeFrom_cons, toNat_toUInt8 (by omega), step, start_of_four (by omega) (by omega),
      List.nil_append, decodeFrom_cons, toNat_toUInt8 (by omega),
      step_of_owed (by dsimp only; split_ifs <;> omega) (by dsimp only; split_ifs <;> omega)
        (by simp),
      List.nil_append, decodeFrom_cons, toNat_toUInt8 (by omega),
      step_of_owed (by dsimp only; omega) (by dsimp only; omega) (by simp),
      List.nil_append, decodeFrom_cons, toNat_toUInt8 (by omega),
      step_of_last (by dsimp only; omega) (by dsimp only; omega) rfl]
    dsimp only
    rw [hbits, hc]
    rfl

/-- **A text is read back from its bytes.** -/
theorem decode_encode (t : Text) : decode (encode t) = t := by
  induction t with
  | nil => rfl
  | cons c cs ih =>
      rw [decode, encode, List.flatMap_cons, decodeFrom_encodeChar]
      exact congrArg (c :: ·) ih

end LabelTemplate.Utf8
