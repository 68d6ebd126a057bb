import LabelTemplate.Field.Position
import LabelTemplate.Proofs.Text.Lines

/-!
# Written integers read back

An integer that is written into a template is read as a coordinate later. It reads
back as itself (`read?_ofInt`), as long as it has no more digits than are read.
-/

namespace LabelTemplate

theorem Text.ofInt_ofNat (n : Nat) : Text.ofInt (Int.ofNat n) = Nat.toDigits 10 n := by
  simp only [Text.ofInt, Int.toString_eq_repr, Int.repr, Nat.toList_repr]

theorem Text.ofInt_negSucc (n : Nat) :
    Text.ofInt (Int.negSucc n) = '-' :: Nat.toDigits 10 (n + 1) := by
  simp only [Text.ofInt, Int.toString_eq_repr, Int.repr, String.toList_append, Nat.toList_repr]
  rfl

/-! ## ASCII digits -/

theorem toNat_of_isDigit {c : Char} (h : c.isDigit = true) : 48 ≤ c.toNat ∧ c.toNat ≤ 57 :=
  Char.isDigit_iff_toNat.mp h

theorem decimalValue?_of_isDigit {c : Char} (h : c.isDigit = true) :
    decimalValue? c = some (c.toNat - 48) := by
  obtain ⟨hlow, hhigh⟩ := toNat_of_isDigit h
  have hzeros : decimalZeros = 48 :: decimalZeros.tail := rfl
  rw [decimalValue?, hzeros, List.find?_cons_of_pos (by simp; omega)]
  rfl

theorem isDecimal_of_isDigit {c : Char} (h : c.isDigit = true) : isDecimal c = true := by
  rw [isDecimal, decimalValue?_of_isDigit h]
  rfl

theorem isBlank_of_isDigit {c : Char} (h : c.isDigit = true) : isBlank c = false := by
  obtain ⟨hlow, hhigh⟩ := toNat_of_isDigit h
  simp [isBlank, inRanges, blankRanges]
  omega

namespace Integer

/-- An integer with no more digits than are read. -/
def Short (n : Int) : Prop := (Nat.toDigits 10 n.natAbs).length ≤ digitLimit

instance (n : Int) : Decidable (Short n) :=
  inferInstanceAs (Decidable (_ ≤ digitLimit))

theorem isBody_of_isDigit {c : Char} (h : c.isDigit = true) : isBody c = true := by
  rw [isBody, isDecimal_of_isDigit h]
  rfl

theorem isPadding_of_isDigit {c : Char} (h : c.isDigit = true) : isPadding c = false := by
  rw [isPadding, isBlank_of_isDigit h]
  rfl

theorem foldl_filterMap_decimalValue? {t : Text} (h : ∀ c ∈ t, c.isDigit = true) (init : Nat) :
    (t.filterMap decimalValue?).foldl (fun n d => 10 * n + d) init =
      Nat.ofDigitChars 10 t init := by
  induction t generalizing init with
  | nil => rfl
  | cons c cs ih =>
      rw [List.filterMap_cons, decimalValue?_of_isDigit (h c List.mem_cons_self),
        Nat.ofDigitChars_cons, ← ih fun d hd => h d (List.mem_cons_of_mem c hd)]
      rfl

theorem isDigit_of_mem_toDigits {n : Nat} : ∀ c ∈ Nat.toDigits 10 n, c.isDigit = true :=
  fun _ => Nat.isDigit_of_mem_toDigits (by decide) (by decide)

theorem valueOf_toDigits (n : Nat) : valueOf (Nat.toDigits 10 n) = n := by
  rw [valueOf, foldl_filterMap_decimalValue? isDigit_of_mem_toDigits,
    Nat.ofDigitChars_ten_toDigits]

theorem splitSign_toDigits (n : Nat) :
    splitSign (Nat.toDigits 10 n) = (false, Nat.toDigits 10 n) := by
  cases h : Nat.toDigits 10 n with
  | nil => rfl
  | cons c cs =>
      have hc : c.isDigit = true := isDigit_of_mem_toDigits c (h ▸ List.mem_cons_self)
      -- a digit is neither of the signs
      unfold splitSign
      split
      · rename_i heq
        obtain rfl := (List.cons.inj heq).1
        exact absurd hc (by decide)
      · rename_i heq
        obtain rfl := (List.cons.inj heq).1
        exact absurd hc (by decide)
      · rfl

/-- What `read` makes of digits behind a sign, with nothing else there. -/
theorem read_of_splitSign {t : Text} {negative : Bool} {n : Nat}
    (ht : ∀ c ∈ t.head?, isPadding c = false)
    (hsign : splitSign t = (negative, Nat.toDigits 10 n))
    (hshort : (Nat.toDigits 10 n).length ≤ digitLimit) :
    read t = .ok (if negative then -(n : Int) else n) := by
  have hdigit := isDigit_of_mem_toDigits (n := n)
  -- the digits are all of the body, in one group
  have hbody : ∀ c ∈ Nat.toDigits 10 n, isBody c = true := fun c hc =>
    isBody_of_isDigit (hdigit c hc)
  have htake : (Nat.toDigits 10 n).takeWhile isBody = Nat.toDigits 10 n := by
    have h : (Nat.toDigits 10 n ++ []).takeWhile isBody = _ := List.takeWhile_append_of_pos hbody
    simpa using h
  have hdrop : (Nat.toDigits 10 n).dropWhile isBody = [] := by
    have h : (Nat.toDigits 10 n ++ []).dropWhile isBody = _ := List.dropWhile_append_of_pos hbody
    simpa using h
  have hgroup : wellGrouped (Nat.toDigits 10 n) = true := by
    rw [wellGrouped, Text.splitOn_of_not_mem Nat.underscore_not_in_toDigits]
    simp [Nat.toDigits_ne_nil]
  have hcount : (Nat.toDigits 10 n).filter isDecimal = Nat.toDigits 10 n :=
    List.filter_eq_self.mpr fun c hc => isDecimal_of_isDigit (hdigit c hc)
  have hpad : t.dropWhile isPadding = t := by
    cases t with
    | nil => rfl
    | cons c cs => rw [List.dropWhile_cons_of_neg (by simp [ht c rfl])]
  unfold read
  rw [hpad, hsign]
  simp only [htake, hdrop, hgroup, hcount, valueOf_toDigits]
  simp [Nat.not_lt.mpr hshort]

/-- **A written integer reads back as itself.** -/
theorem read?_ofInt {n : Int} (h : Short n) : read? (Text.ofInt n) = some n := by
  cases n with
  | ofNat n =>
      have hread : read (Nat.toDigits 10 n) = .ok (if false then -(n : Int) else n) :=
        read_of_splitSign
          (fun c hc => isPadding_of_isDigit (isDigit_of_mem_toDigits c (List.mem_of_mem_head? hc)))
          (splitSign_toDigits n) h
      rw [read?, Text.ofInt_ofNat, hread]
      rfl
  | negSucc n =>
      have hread : read ('-' :: Nat.toDigits 10 (n + 1)) =
          .ok (if true then -((n + 1 : Nat) : Int) else ((n + 1 : Nat) : Int)) :=
        read_of_splitSign (fun c hc => by obtain rfl := Option.some.inj hc; decide) rfl h
      rw [read?, Text.ofInt_negSucc, hread]
      rfl

end Integer

namespace Position

/-- A position whose coordinates have no more digits than are read. -/
def Short (p : Position) : Prop := Integer.Short p.x ∧ Integer.Short p.y

instance (p : Position) : Decidable p.Short :=
  inferInstanceAs (Decidable (Integer.Short p.x ∧ Integer.Short p.y))

theorem read?_ofInt {p : Position} (h : p.Short) :
    read? (Text.ofInt p.x) (Text.ofInt p.y) = some p := by
  rw [read?, Integer.read?_ofInt h.1, Integer.read?_ofInt h.2]
  rfl

end Position

end LabelTemplate
