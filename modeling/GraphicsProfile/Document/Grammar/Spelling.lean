import GraphicsProfile.Document.Grammar.Literal

namespace GraphicsProfile.Document.Grammar

inductive HexWord : List Char → Nat → Prop where
  | digits {first second third fourth : Char} {a b c d : Nat} (firstDigit : HexDigit first a)
      (secondDigit : HexDigit second b) (thirdDigit : HexDigit third c)
      (fourthDigit : HexDigit fourth d) :
      HexWord [first, second, third, fourth] (a * 0x1000 + b * 0x100 + c * 0x10 + d)

/-- One way to write a character. A character outside the basic plane is also written by two code
units, the halves of its surrogate pair. -/
inductive Spells : List Char → Char → Prop where
  | plain {char : Char} (noQuote : char ≠ '"') (noEscape : char ≠ '\\')
      (noControl : 0x20 ≤ char.toNat) : Spells [char] char
  | short {mark char : Char} (known : (mark, char) ∈ shortEscapes) : Spells ['\\', mark] char
  | codePoint {word : List Char} {char : Char} (written : HexWord word char.toNat) :
      Spells ('\\' :: 'u' :: word) char
  | pair {first second : List Char} {char : Char} {high low : Nat}
      (leading : HexWord first (0xD800 + high)) (trailing : HexWord second (0xDC00 + low))
      (highBits : high < 0x400) (lowBits : low < 0x400)
      (whole : char.toNat = 0x10000 + high * 0x400 + low) :
      Spells ('\\' :: 'u' :: first ++ '\\' :: 'u' :: second) char

inductive Spelling : List Char → List Char → Prop where
  | empty : Spelling [] []
  | piece {front back decoded : List Char} {char : Char} (first : Spells front char)
      (later : Spelling back decoded) : Spelling (front ++ back) (char :: decoded)

end GraphicsProfile.Document.Grammar
