import Conduit.Text.CombiningMark
import Conduit.Text.Unassigned
/-!
# Invisible characters

Characters that show nothing, or nothing of their own: controls, format characters, spaces other
than the plain one, private and unassigned code points, combining marks, and the fillers of
Hangul, which are letters without a shape. The properties are those of Unicode 17.0.

## Main definitions

* `Conduit.Text.isInvisible`: whether a character is one of these.

## Main results

* `Conduit.Text.isInvisible_of_isWhitespace`: white space is invisible, the plain space apart.
-/

namespace Conduit.Text

/-- The controls, the code points of the category `Cc`. -/
def controls : Ranges := [(0x0, 0x1F), (0x7F, 0x9F)]

/-- The format characters, the code points of the category `Cf`. -/
def formatCharacters : Ranges :=
  [(0xAD, 0xAD), (0x600, 0x605), (0x61C, 0x61C), (0x6DD, 0x6DD), (0x70F, 0x70F), (0x890, 0x891),
   (0x8E2, 0x8E2), (0x180E, 0x180E), (0x200B, 0x200F), (0x202A, 0x202E), (0x2060, 0x2064),
   (0x2066, 0x206F), (0xFEFF, 0xFEFF), (0xFFF9, 0xFFFB), (0x110BD, 0x110BD), (0x110CD, 0x110CD),
   (0x13430, 0x1343F), (0x1BCA0, 0x1BCA3), (0x1D173, 0x1D17A), (0xE0001, 0xE0001),
   (0xE0020, 0xE007F)]

/-- The separators, the code points of the categories `Zs`, `Zl` and `Zp`, without the plain
space. -/
def separators : Ranges :=
  [(0xA0, 0xA0), (0x1680, 0x1680), (0x2000, 0x200A), (0x2028, 0x2029), (0x202F, 0x202F),
   (0x205F, 0x205F), (0x3000, 0x3000)]

/-- The code points for private use, those of the category `Co`. -/
def privateUse : Ranges := [(0xE000, 0xF8FF), (0xF0000, 0xFFFFD), (0x100000, 0x10FFFD)]

/-- The fillers of Hangul: letters that are left out where they cannot be shown. -/
def fillers : Ranges := [(0x115F, 0x1160), (0x3164, 0x3164), (0xFFA0, 0xFFA0)]

/-- Whether a character shows nothing of its own. -/
def isInvisible (c : Char) : Bool :=
  [controls, formatCharacters, separators, privateUse, fillers, combiningMarks, unassigned].any
    (·.contains c.toNat)

example : [controls, formatCharacters, separators, privateUse, fillers].all (·.isAscending) := by
  decide

example : [controls, formatCharacters, separators].map (·.count) = [65, 170, 18] := by decide

theorem isInvisible_of_isWhitespace {c : Char} (h : c.isWhitespace = true) (hc : c ≠ ' ') :
    isInvisible c = true := by
  simp only [Char.isWhitespace, Bool.or_eq_true, decide_eq_true_eq] at h
  rcases h with ((h | h) | h) | h
  · exact absurd h hc
  all_goals subst h; decide

end Conduit.Text
