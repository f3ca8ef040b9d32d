import GraphicsProfile.Text.GraphemeExtend
import GraphicsProfile.Text.Unassigned

/-!
Characters that leave no mark of their own on a page: controls, format characters, separators
other than the plain space, code points for private use or without a character, characters meant to
be shown as nothing, and marks that only extend the character before them.
-/

namespace GraphicsProfile.Text

/-- The general category Cc. -/
def isControl (char : Char) : Bool :=
  char.toNat < 0x20 || (0x7F ≤ char.toNat && char.toNat ≤ 0x9F)

def formatRanges : List CodeRange :=
  [(0xAD, 0xAD), (0x600, 0x605), (0x61C, 0x61C), (0x6DD, 0x6DD), (0x70F, 0x70F),
   (0x890, 0x891), (0x8E2, 0x8E2), (0x180E, 0x180E), (0x200B, 0x200F), (0x202A, 0x202E),
   (0x2060, 0x2064), (0x2066, 0x206F), (0xFEFF, 0xFEFF), (0xFFF9, 0xFFFB),
   (0x110BD, 0x110BD), (0x110CD, 0x110CD), (0x13430, 0x1343F), (0x1BCA0, 0x1BCA3),
   (0x1D173, 0x1D17A), (0xE0001, 0xE0001), (0xE0020, 0xE007F)]

/-- The general category Cf. -/
def isFormat (char : Char) : Bool :=
  inRanges formatRanges char

def separatorRanges : List CodeRange :=
  [(0x20, 0x20), (0xA0, 0xA0), (0x1680, 0x1680), (0x2000, 0x200A), (0x2028, 0x2029),
   (0x202F, 0x202F), (0x205F, 0x205F), (0x3000, 0x3000)]

/-- The general categories Zl, Zp and Zs. -/
def isSeparator (char : Char) : Bool :=
  inRanges separatorRanges char

def privateUseRanges : List CodeRange :=
  [(0xE000, 0xF8FF), (0xF0000, 0xFFFFD), (0x100000, 0x10FFFD)]

def isPrivateUse (char : Char) : Bool :=
  inRanges privateUseRanges char

def defaultIgnorableRanges : List CodeRange :=
  [(0xAD, 0xAD), (0x34F, 0x34F), (0x61C, 0x61C), (0x115F, 0x1160), (0x17B4, 0x17B5),
   (0x180B, 0x180F), (0x200B, 0x200F), (0x202A, 0x202E), (0x2060, 0x206F), (0x3164, 0x3164),
   (0xFE00, 0xFE0F), (0xFEFF, 0xFEFF), (0xFFA0, 0xFFA0), (0xFFF0, 0xFFF8), (0x1BCA0, 0x1BCA3),
   (0x1D173, 0x1D17A), (0xE0000, 0xE0FFF)]

/-- The property Default_Ignorable_Code_Point. The fillers of the Korean script are the letters
that have it. -/
def isDefaultIgnorable (char : Char) : Bool :=
  inRanges defaultIgnorableRanges char

/-- The halfwidth voiced and semi-voiced sound marks. They extend the letter before them, but are
letters by category and fill a cell of their own. -/
def isHalfwidthSoundMark (char : Char) : Bool :=
  char == '\uFF9E' || char == '\uFF9F'

def isUnprintable (char : Char) : Bool :=
  isControl char || isFormat char || (isSeparator char && char != ' ') || isPrivateUse char ||
    isUnassigned char || isDefaultIgnorable char ||
    (isGraphemeExtend char && !isHalfwidthSoundMark char)

end GraphicsProfile.Text
