import Downlink.Text.Combining
import Downlink.Text.Unassigned

/-!
# Visible characters

A character is visible if a reader who sees it on a page, in whatever text, can tell that it is
there. Letters, digits, punctuation, symbols and the space are; what is left out are the seven kinds
below, two of which have a module of their own.
-/

namespace Downlink.Text

/-- Control characters. -/
def controls : Ranges := [(0x0, 0x1F), (0x7F, 0x9F)]

/-- Blanks other than the space, and the separators of lines and paragraphs. -/
def blanks : Ranges :=
  [(0xA0, 0xA0), (0x1680, 0x1680), (0x2000, 0x200A), (0x2028, 0x2029), (0x202F, 0x202F),
    (0x205F, 0x205F), (0x3000, 0x3000)]

/-- Characters that only direct how others are laid out or read. -/
def formats : Ranges :=
  [(0xAD, 0xAD), (0x600, 0x605), (0x61C, 0x61C), (0x6DD, 0x6DD), (0x70F, 0x70F), (0x890, 0x891),
    (0x8E2, 0x8E2), (0x180E, 0x180E), (0x200B, 0x200F), (0x202A, 0x202E), (0x2060, 0x2064),
    (0x2066, 0x206F), (0xFEFF, 0xFEFF), (0xFFF9, 0xFFFB), (0x110BD, 0x110BD), (0x110CD, 0x110CD),
    (0x13430, 0x1343F), (0x1BCA0, 0x1BCA3), (0x1D173, 0x1D17A), (0xE0001, 0xE0001),
    (0xE0020, 0xE007F)]

/-- Characters whose meaning is left to agreements. -/
def privateUse : Ranges := [(0xE000, 0xF8FF), (0xF0000, 0xFFFFD), (0x100000, 0x10FFFD)]

/-- Letters that stand for a missing letter and are not drawn. -/
def fillers : Ranges := [(0x115F, 0x1160), (0x3164, 0x3164), (0xFFA0, 0xFFA0)]

/-- The kinds of characters that are not visible. -/
def invisible : List Ranges :=
  [controls, blanks, formats, privateUse, fillers, combining, unassigned]

/-- Whether a character leaves a mark of its own. -/
def isVisible (c : Char) : Bool := !invisible.any fun kind => kind.covers c

end Downlink.Text
