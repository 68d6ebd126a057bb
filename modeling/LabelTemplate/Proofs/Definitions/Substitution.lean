import LabelTemplate.Proofs.Definitions.Renaming
import LabelTemplate.Proofs.Text.Lines
import Mathlib.Data.List.Nodup

/-!
# Renaming as a substitution

Said without a scan, renaming goes piece by piece: the text is cut at every store command, and in
each piece behind one the name, that is what stands up to the first comma, is replaced by its image.
The names are looked up in the pieces as they were. So nothing that is put in is looked at again, in
whatever order names are exchanged or handed on, and it is the whole name that counts.

The scan does the same if no name has a comma or a store command in it. Without a comma, a name that
is found is the whole name of its piece; without a store command, it does not go on into the next
piece (`replace_piece`).
-/

namespace LabelTemplate

open Text Command Scan

namespace Text

theorem dropSuffix_eq_iff {suffix t u : Text} :
    dropSuffix suffix t = u ↔ t = u ++ suffix ∨ ¬ suffix <:+ t ∧ t = u := by
  rw [dropSuffix]
  by_cases hends : suffix <:+ t
  · obtain ⟨v, rfl⟩ := hends
    rw [if_pos (List.isSuffixOf_iff_suffix.mpr (List.suffix_append v suffix)), List.length_append,
      Nat.add_sub_cancel, List.take_left]
    simp
  · rw [if_neg (List.isSuffixOf_iff_suffix.not.mpr hends)]
    constructor
    · exact fun h => .inr ⟨hends, h⟩
    · rintro (rfl | ⟨_, h⟩)
      · exact absurd (List.suffix_append u suffix) hends
      · exact h

end Text

namespace Definitions

/-! ## Pieces and names -/

/-- What is left of a text when a format start at its end goes and then the blanks at its end. -/
structure Remains (t left : Text) : Prop where
  /-- Blanks go, and a format start behind them. -/
  cut : ∃ blanks, (∀ c ∈ blanks, isBlank c = true) ∧
    (t = left ++ blanks ++ formatStart ∨ ¬ formatStart <:+ t ∧ t = left ++ blanks)
  /-- All blanks go. -/
  bare : ∀ c ∈ left.getLast?, isBlank c = false

/-- The pieces of a text: what stands in front of the first store command and behind each one. -/
structure Cut (t first : Text) (rest : List Text) : Prop where
  /-- The pieces make up the text. -/
  joined : joinWith storeGraphic (first :: rest) = t
  /-- The text is cut everywhere. -/
  whole : ∀ piece ∈ first :: rest, ¬ storeGraphic <:+: piece

/-- A piece with an image for its name; a piece without a comma has no name. -/
def withName (image : Text → Text) (piece : Text) : Text :=
  if ',' ∈ piece then image (piece.takeWhile (· != ',')) ++ piece.dropWhile (· != ',') else piece

/-- The image of a name that is a key, and any other name as it is; the empty text is no key. -/
def newName (names : Renaming) (name : Text) : Text :=
  match names.find? fun entry => entry.1 != [] && entry.1 == name with
  | some (_, new) => new
  | none => name

theorem remains_iff {d : Definitions} {left : Text} : Remains d.text left ↔ d.body = left := by
  rw [body, trimEnd_eq_iff]
  constructor
  · rintro ⟨⟨blanks, hblanks, h⟩, hbare⟩
    exact ⟨blanks, dropSuffix_eq_iff.mpr h, hblanks, hbare⟩
  · rintro ⟨blanks, h, hblanks, hbare⟩
    exact ⟨⟨blanks, hblanks, dropSuffix_eq_iff.mp h⟩, hbare⟩

/-- A text can be cut. -/
theorem exists_cut (t : Text) : ∃ first rest, Cut t first rest := by
  have hne : storeGraphic ≠ [] := by decide
  induction t using induction_on_pattern hne with
  | nil => exact ⟨[], [], rfl, by simp [storeGraphic]⟩
  | plain c cs hno ih =>
      obtain ⟨first, rest, rfl, hwhole⟩ := ih
      refine ⟨c :: first, rest, by rw [joinWith_cons, joinWith_cons, List.cons_append], ?_⟩
      rw [List.forall_mem_cons] at hwhole ⊢
      refine ⟨fun h => ?_, hwhole.2⟩
      rcases List.infix_cons_iff.mp h with h | h
      · rw [joinWith_cons, ← List.cons_append] at hno
        exact hno (h.trans (List.prefix_append _ _))
      · exact hwhole.1 h
  | occurrence t ih =>
      obtain ⟨first, rest, rfl, hwhole⟩ := ih
      refine ⟨[], first :: rest, rfl, List.forall_mem_cons.mpr ⟨by simp [storeGraphic], hwhole⟩⟩

theorem withName_of_not_mem {image : Text → Text} {piece : Text} (h : ',' ∉ piece) :
    withName image piece = piece := if_neg h

theorem withName_append {image : Text → Text} {name : Text} (hname : ',' ∉ name) (data : Text) :
    withName image (name ++ ',' :: data) = image name ++ ',' :: data := by
  have hall : ∀ c ∈ name, (c != ',') = true := by
    intro c hc
    exact bne_iff_ne.mpr fun h => hname (h ▸ hc)
  obtain ⟨htake, hdrop⟩ := Statement.takeWhile_append_of_head (',' :: data) hall (by simp)
  rw [withName, if_pos (by simp), htake, hdrop]

variable {names : Renaming}

/-! ## Images -/

theorem newName_of_mem (hnodup : (names.map Prod.fst).Nodup) {old new : Text}
    (hmem : (old, new) ∈ names) (hne : old ≠ []) : newName names old = new := by
  cases hfind : names.find? fun entry => entry.1 != [] && entry.1 == old with
  | none =>
      have hno := List.find?_eq_none.mp hfind (old, new) hmem
      simp [hne] at hno
  | some entry =>
      have hkey : entry.1 = old := by
        have hboth := List.find?_some hfind
        simp only [Bool.and_eq_true, beq_iff_eq] at hboth
        exact hboth.2
      have hentry := List.inj_on_of_nodup_map hnodup (List.mem_of_find?_eq_some hfind) hmem hkey
      rw [newName, hfind, hentry]

theorem newName_of_not_mem {name : Text} (h : ∀ new, (name, new) ∈ names → name = [] ∨ name = new) :
    newName names name = name := by
  cases hfind : names.find? fun entry => entry.1 != [] && entry.1 == name with
  | none => rw [newName, hfind]
  | some entry =>
      have hboth := List.find?_some hfind
      simp only [Bool.and_eq_true, bne_iff_ne, beq_iff_eq] at hboth
      obtain ⟨hne, rfl⟩ := hboth
      rw [newName, hfind]
      exact ((h entry.2 (List.mem_of_find?_eq_some hfind)).resolve_left hne).symm

/-! ## Piece by piece -/

theorem renamedOpening_eq_none_of_not_prefix {t : Text} (h : ¬ storeGraphic <+: t) :
    renamedOpening names t = none := by
  rw [renamedOpening, Statement.after?_eq_none_iff.mpr h]
  rfl

/-- What has no store command in it stays as it is in front of one. -/
theorem replace_append_of_not_infix {w z : Text} (hw : ¬ storeGraphic <:+: w)
    (hz : ∀ c ∈ z.head?, c = '~') :
    replace (renamedOpening names) (storeGraphic ++ ·) (w ++ z) =
      w ++ replace (renamedOpening names) (storeGraphic ++ ·) z := by
  refine replace_append_of_none fun u hu hsuffix => renamedOpening_eq_none_of_not_prefix ?_
  have hhead : ∀ c ∈ z.head?, c ∉ storeGraphic.tail := by
    intro c hc
    rw [hz c hc]
    decide
  rw [prefix_append_iff_of_head hu hhead]
  exact fun hpre => hw (hpre.isInfix.trans hsuffix.isInfix)

/-- Nothing comes behind a piece, or the next store command. -/
def AtStore (t : Text) : Prop := t = [] ∨ storeGraphic <+: t

theorem atStore_flatMap {write : Text → Text} (pieces : List Text) :
    AtStore (pieces.flatMap fun piece => storeGraphic ++ write piece) := by
  cases pieces with
  | nil => exact .inl rfl
  | cons piece pieces =>
      refine .inr ?_
      rw [List.flatMap_cons, List.append_assoc]
      exact List.prefix_append _ _

theorem AtStore.head?_eq {t : Text} (h : AtStore t) : ∀ c ∈ t.head?, c = '~' := by
  rintro c hc
  rcases h with rfl | ⟨r, rfl⟩
  · exact absurd hc (by simp)
  · exact (Option.some.inj hc).symm

/-- A name that is found at the beginning of a piece stands in that piece, with its comma. -/
theorem exists_of_renamedOpening_piece
    (hwhole : ∀ old new, (old, new) ∈ names → ¬ storeGraphic <:+: old)
    {piece z new : Text} {n : Nat} (hz : AtStore z)
    (h : renamedOpening names (storeGraphic ++ (piece ++ z)) = some (new, n)) :
    ∃ old data, (old, new) ∈ names ∧ piece = old ++ ',' :: data ∧
      n = (storeGraphic ++ old).length := by
  obtain ⟨old, rest, hmem, heq, hn⟩ := renamedOpening_eq_some h
  rcases append_eq_append_cons (List.append_cancel_left heq) with ⟨w, rfl, hover⟩ | ⟨data, rfl, _⟩
  · -- otherwise the store command behind the piece would be in the name, or the comma in it
    rcases hz with rfl | hz
    · exact absurd hover (by simp)
    · rw [hover] at hz
      cases w with
      | nil => exact absurd (List.cons_prefix_cons.mp hz).1 (by decide)
      | cons c w =>
          have hcomma : ∀ d ∈ (',' :: rest).head?, d ∉ storeGraphic.tail := by
            rintro d hd
            rw [← Option.some.inj hd]
            decide
          rw [prefix_append_iff_of_head (by simp) hcomma] at hz
          exact absurd (hz.isInfix.trans (List.suffix_append _ _).isInfix) (hwhole _ _ hmem)
  · exact ⟨old, data, hmem, rfl, hn⟩

/-- Where nothing is found at the beginning of a piece, its name has no image. -/
theorem withName_of_renamedOpening_eq_none {piece z : Text}
    (h : renamedOpening (effective names) (storeGraphic ++ (piece ++ z)) = none) :
    withName (newName names) piece = piece := by
  by_cases hcomma : ',' ∈ piece
  · obtain ⟨name, data, rfl, hname⟩ := List.eq_append_cons_of_mem hcomma
    rw [withName_append hname, newName_of_not_mem]
    intro new hmem
    by_contra hchanges
    rw [not_or] at hchanges
    exact renamedOpening_eq_none_iff.mp h name new (data ++ z)
      (mem_effective_iff.mpr ⟨hmem, hchanges⟩) (by simp)
  · exact withName_of_not_mem hcomma

section Pieces

variable (hnodup : (names.map Prod.fst).Nodup)
  (hkeys : ∀ old new, (old, new) ∈ names → ',' ∉ old ∧ ¬ storeGraphic <:+: old)
include hnodup hkeys

/-- **A piece gets the image of its name.** -/
theorem replace_piece {piece z : Text} (hpiece : ¬ storeGraphic <:+: piece) (hz : AtStore z) :
    replace (renamedOpening (effective names)) (storeGraphic ++ ·) (storeGraphic ++ (piece ++ z)) =
      storeGraphic ++ (withName (newName names) piece ++
        replace (renamedOpening (effective names)) (storeGraphic ++ ·) z) := by
  cases hrec : renamedOpening (effective names) (storeGraphic ++ (piece ++ z)) with
  | none =>
      rw [replace_storeGraphic_of_none hrec, replace_append_of_not_infix hpiece hz.head?_eq,
        withName_of_renamedOpening_eq_none hrec]
  | some found =>
      obtain ⟨new, n⟩ := found
      have hwhole : ∀ old new, (old, new) ∈ effective names → ¬ storeGraphic <:+: old :=
        fun old new hmem => (hkeys old new (mem_effective_iff.mp hmem).1).2
      obtain ⟨old, data, hmem, rfl, rfl⟩ := exists_of_renamedOpening_piece hwhole hz hrec
      obtain ⟨hentry, hne, _⟩ := mem_effective_iff.mp hmem
      have hdata : ¬ storeGraphic <:+: ',' :: data := fun h =>
        hpiece (h.trans (List.suffix_append old _).isInfix)
      have hdrop : (storeGraphic ++ (old ++ ',' :: data ++ z)).drop (storeGraphic ++ old).length =
          ',' :: data ++ z := by
        rw [List.append_assoc old, ← List.append_assoc storeGraphic, List.drop_left]
      rw [replace_of_some (exact_renamedOpening _) hrec, hdrop,
        replace_append_of_not_infix hdata hz.head?_eq, withName_append (hkeys old new hentry).1,
        newName_of_mem hnodup hentry hne]
      simp only [List.append_assoc]

theorem replace_pieces {pieces : List Text}
    (hpieces : ∀ piece ∈ pieces, ¬ storeGraphic <:+: piece) :
    replace (renamedOpening (effective names)) (storeGraphic ++ ·)
        (pieces.flatMap (storeGraphic ++ ·)) =
      (pieces.map (withName (newName names))).flatMap (storeGraphic ++ ·) := by
  induction pieces with
  | nil => rfl
  | cons piece pieces ih =>
      rw [List.forall_mem_cons] at hpieces
      rw [List.flatMap_cons, List.append_assoc, replace_piece hnodup hkeys hpieces.1
        (atStore_flatMap pieces), ih hpieces.2]
      simp

/-- **What the definitions are under new names, piece by piece.** -/
theorem renamed_eq {d : Definitions} {left first : Text} {rest : List Text}
    (hremains : Remains d.text left) (hcut : Cut left first rest) :
    d.renamed names = first ++ rest.flatMap fun piece =>
      storeGraphic ++ withName (newName names) piece := by
  obtain ⟨rfl, hwhole⟩ := hcut
  rw [List.forall_mem_cons] at hwhole
  rw [renamed, remains_iff.mp hremains, joinWith_cons,
    replace_append_of_not_infix hwhole.1 (atStore_flatMap rest).head?_eq,
    replace_pieces hnodup hkeys hwhole.2, List.flatMap_map]

end Pieces

/--
**Renaming substitutes the names, all at once and each as a whole.**

The text without one format start at its end and without the blanks that are then at its end is cut
at every store command. In each piece behind one, what stands up to the first comma is replaced by
its image if it is a key and not empty, and nothing else changes.
-/
theorem renamed_is_substitution (d : Definitions) {names : Renaming}
    (hnodup : (names.map Prod.fst).Nodup)
    (hkeys : ∀ old new, (old, new) ∈ names → ',' ∉ old ∧ '~' ∉ old) :
    (∃ left first rest, Remains d.text left ∧ Cut left first rest) ∧
      ∀ left first rest, Remains d.text left → Cut left first rest →
        d.renamed names =
          joinWith storeGraphic (first :: rest.map (withName (newName names))) := by
  constructor
  · obtain ⟨first, rest, hcut⟩ := exists_cut d.body
    exact ⟨d.body, first, rest, remains_iff.mpr rfl, hcut⟩
  · intro left first rest hremains hcut
    have hwhole : ∀ old new, (old, new) ∈ names → ',' ∉ old ∧ ¬ storeGraphic <:+: old := by
      intro old new hmem
      refine ⟨(hkeys old new hmem).1, fun h => (hkeys old new hmem).2 (h.subset ?_)⟩
      exact List.mem_cons_self
    rw [renamed_eq hnodup hwhole hremains hcut, joinWith_cons, List.flatMap_map]

/-- Two names are exchanged; a longer one, an empty one and a piece without a comma are kept. -/
theorem renamed_is_substitution_of_exchange :
    let d : Definitions := { text := "x~DGA,1~DGB,2~DGAB,A,3~DG,4~DGA \n^XA".toList }
    let names : Renaming := [(['A'], ['B']), (['B'], ['A']), ([], ['X'])]
    let left := "x~DGA,1~DGB,2~DGAB,A,3~DG,4~DGA".toList
    let rest := ["A,1".toList, "B,2".toList, "AB,A,3".toList, ",4".toList, ['A']]
    (names.map Prod.fst).Nodup ∧ (∀ old new, (old, new) ∈ names → ',' ∉ old ∧ '~' ∉ old) ∧
      Remains d.text left ∧ Cut left ['x'] rest ∧
      d.renamed names = "x~DGB,1~DGA,2~DGAB,A,3~DG,4~DGA".toList := by
  intro d names left rest
  have hnodup : (names.map Prod.fst).Nodup := by decide
  have hkeys : ∀ old new, (old, new) ∈ names → ',' ∉ old ∧ '~' ∉ old := by
    have hall : ∀ entry ∈ names, ',' ∉ entry.1 ∧ '~' ∉ entry.1 := by decide
    exact fun old new hmem => hall (old, new) hmem
  have hlast : left.getLast? = some 'A' := by decide +kernel
  have hremains : Remains d.text left :=
    ⟨⟨[' ', '\n'], List.all_eq_true.mp (by decide), .inl (by decide +kernel)⟩,
      fun c hc => Option.some.inj (hlast.symm.trans hc) ▸ by decide⟩
  have hcut : Cut left ['x'] rest := ⟨by decide +kernel, by decide +kernel⟩
  refine ⟨hnodup, hkeys, hremains, hcut, ?_⟩
  rw [(renamed_is_substitution d hnodup hkeys).2 left ['x'] rest hremains hcut]
  decide +kernel

/-- The empty name is not replaced, not even where the empty text is a key. -/
theorem renamed_keeps_empty_name :
    ¬ ∀ (d : Definitions) (names : Renaming), (names.map Prod.fst).Nodup →
      (∀ old new, (old, new) ∈ names → old ≠ [] → ',' ∉ old ∧ '~' ∉ old) →
      ∀ left first rest, Remains d.text left → Cut left first rest →
        d.renamed names = joinWith storeGraphic (first :: rest.map (withName fun name =>
          ((names.find? fun entry => entry.1 == name).map Prod.snd).getD name)) := by
  intro h
  have hlast : "~DG,1".toList.getLast? = some '1' := by decide +kernel
  have hreplaced := h { text := "~DG,1^XA".toList } [([], ['X'])] (by decide) (by simp)
    "~DG,1".toList [] [",1".toList]
    ⟨⟨[], List.all_eq_true.mp (by decide), .inl (by decide +kernel)⟩,
      fun c hc => Option.some.inj (hlast.symm.trans hc) ▸ by decide⟩
    ⟨by decide +kernel, by decide +kernel⟩
  exact absurd hreplaced (by decide +kernel)

end Definitions

end LabelTemplate
