import LabelTemplate.Adapters.HostName.Mark

/-!
# Joining letters

In some scripts a letter joins its neighbours. The non-joiner is there to keep two
letters apart that would join otherwise, so it is right only between two such letters;
the joiner, and the non-joiner too, is right behind the sign that takes the vowel from a
letter. Marks between the letters do not count.
-/

namespace LabelTemplate.Adapters.HostName

/-- Which neighbours a letter joins. -/
inductive Joining where
  /-- The letter before it and the letter behind it. -/
  | dual
  /-- The letter behind it. -/
  | next
  /-- The letter before it. -/
  | previous
deriving DecidableEq, Repr

/--
The letters that join their neighbours. A range may run across code points that no
label has.
-/
def joiningRanges : List (Nat × Nat × Joining) :=
  [(0x620, 0x620, .dual), (0x622, 0x625, .previous), (0x626, 0x626, .dual),
   (0x627, 0x627, .previous), (0x628, 0x628, .dual), (0x629, 0x629, .previous),
   (0x62A, 0x62E, .dual), (0x62F, 0x632, .previous), (0x633, 0x647, .dual),
   (0x648, 0x648, .previous), (0x649, 0x64A, .dual), (0x66E, 0x66F, .dual),
   (0x671, 0x673, .previous), (0x679, 0x687, .dual), (0x688, 0x699, .previous),
   (0x69A, 0x6BF, .dual), (0x6C0, 0x6C0, .previous), (0x6C1, 0x6C2, .dual),
   (0x6C3, 0x6CB, .previous), (0x6CC, 0x6CC, .dual), (0x6CD, 0x6CD, .previous),
   (0x6CE, 0x6CE, .dual), (0x6CF, 0x6CF, .previous), (0x6D0, 0x6D1, .dual),
   (0x6D2, 0x6D5, .previous), (0x6EE, 0x6EF, .previous), (0x6FA, 0x6FC, .dual),
   (0x6FF, 0x6FF, .dual), (0x710, 0x710, .previous), (0x712, 0x714, .dual),
   (0x715, 0x719, .previous), (0x71A, 0x71D, .dual), (0x71E, 0x71E, .previous),
   (0x71F, 0x727, .dual), (0x728, 0x728, .previous), (0x729, 0x729, .dual),
   (0x72A, 0x72A, .previous), (0x72B, 0x72B, .dual), (0x72C, 0x72C, .previous),
   (0x72D, 0x72E, .dual), (0x72F, 0x72F, .previous), (0x74D, 0x74D, .previous),
   (0x74E, 0x758, .dual), (0x759, 0x75B, .previous), (0x75C, 0x76A, .dual),
   (0x76B, 0x76C, .previous), (0x76D, 0x770, .dual), (0x771, 0x771, .previous),
   (0x772, 0x772, .dual), (0x773, 0x774, .previous), (0x775, 0x777, .dual),
   (0x778, 0x779, .previous), (0x77A, 0x77F, .dual), (0x7CA, 0x7EA, .dual),
   (0x840, 0x840, .previous), (0x841, 0x845, .dual), (0x846, 0x847, .previous),
   (0x848, 0x848, .dual), (0x849, 0x849, .previous), (0x84A, 0x853, .dual),
   (0x854, 0x854, .previous), (0x855, 0x855, .dual), (0x856, 0x858, .previous),
   (0x860, 0x860, .dual), (0x862, 0x865, .dual), (0x867, 0x867, .previous), (0x868, 0x868, .dual),
   (0x869, 0x882, .previous), (0x886, 0x886, .dual), (0x889, 0x88D, .dual),
   (0x88E, 0x88E, .previous), (0x8A0, 0x8A9, .dual), (0x8AA, 0x8AC, .previous),
   (0x8AE, 0x8AE, .previous), (0x8AF, 0x8B0, .dual), (0x8B1, 0x8B2, .previous),
   (0x8B3, 0x8B8, .dual), (0x8B9, 0x8B9, .previous), (0x8BA, 0x8C8, .dual),
   (0x1820, 0x1878, .dual), (0x1887, 0x18A8, .dual), (0x18AA, 0x18AA, .dual),
   (0xA840, 0xA871, .dual), (0xA872, 0xA872, .next), (0x10AC0, 0x10AC4, .dual),
   (0x10AC5, 0x10AC5, .previous), (0x10AC7, 0x10ACA, .previous), (0x10ACD, 0x10ACD, .next),
   (0x10ACE, 0x10AD2, .previous), (0x10AD3, 0x10AD6, .dual), (0x10AD7, 0x10AD7, .next),
   (0x10AD8, 0x10ADC, .dual), (0x10ADD, 0x10ADD, .previous), (0x10ADE, 0x10AE0, .dual),
   (0x10AE1, 0x10AE1, .previous), (0x10AE4, 0x10AE4, .previous), (0x10B80, 0x10B80, .dual),
   (0x10B81, 0x10B81, .previous), (0x10B82, 0x10B82, .dual), (0x10B83, 0x10B85, .previous),
   (0x10B86, 0x10B88, .dual), (0x10B89, 0x10B89, .previous), (0x10B8A, 0x10B8B, .dual),
   (0x10B8C, 0x10B8C, .previous), (0x10B8D, 0x10B8D, .dual), (0x10B8E, 0x10B8F, .previous),
   (0x10B90, 0x10B90, .dual), (0x10B91, 0x10B91, .previous), (0x10D00, 0x10D00, .next),
   (0x10D01, 0x10D21, .dual), (0x10D22, 0x10D22, .previous), (0x10D23, 0x10D23, .dual),
   (0x10F30, 0x10F32, .dual), (0x10F33, 0x10F33, .previous), (0x10F34, 0x10F44, .dual),
   (0x10F70, 0x10F73, .dual), (0x10F74, 0x10F75, .previous), (0x10F76, 0x10F81, .dual),
   (0x10FB0, 0x10FB0, .dual), (0x10FB2, 0x10FB3, .dual), (0x10FB4, 0x10FB6, .previous),
   (0x10FB8, 0x10FB8, .dual), (0x10FB9, 0x10FBA, .previous), (0x10FBB, 0x10FBC, .dual),
   (0x10FBD, 0x10FBD, .previous), (0x10FBE, 0x10FBF, .dual), (0x10FC1, 0x10FC1, .dual),
   (0x10FC2, 0x10FC3, .previous), (0x10FC4, 0x10FC4, .dual), (0x1E922, 0x1E943, .dual)]

/-- The marks that letters join across although they have a direction. -/
def joinedAcross : List Nat :=
  [0xCBF, 0xCC6, 0x11A07, 0x11A08, 0x11C3F, 0x1E94B]

namespace Joining

/-- Which neighbours a character joins, if any. -/
def ofChar? (c : Char) : Option Joining := rangeValue? joiningRanges c

/-- Do letters join across this character? -/
def isTransparent (c : Char) : Bool :=
  Direction.ofChar c == .mark || joinedAcross.contains c.toNat

/-- Does a letter join the one behind it? -/
def joinsNext (c : Char) : Bool := ofChar? c == some .dual || ofChar? c == some .next

/-- Does a letter join the one before it? -/
def joinsPrevious (c : Char) : Bool := ofChar? c == some .dual || ofChar? c == some .previous

/-- Do the letters on both sides of a place join? `before` is read backwards. -/
def joins (before after : Text) : Bool :=
  (before.dropWhile isTransparent).head?.any joinsNext
    && (after.dropWhile isTransparent).head?.any joinsPrevious

/-- Does the sign that takes the vowel from a letter come right before? -/
def followsVirama (before : Text) : Bool :=
  before.head?.any fun c => combiningClass c == viramaClass

end Joining

end LabelTemplate.Adapters.HostName
