/-!
The grammar of literals and of the blanks around them, said without a reader and with tables of its
own.

Every form relates a text to what follows the form in it, and a form that has a meaning stands
between the two: `Literal text spelled rest` says that `text` is a literal for `spelled` and then
`rest`.
-/

namespace GraphicsProfile.Document.Grammar

def Blank (char : Char) : Prop :=
  char = ' ' ∨ char = '\n' ∨ char = '\t' ∨ char = '\r'

instance : DecidablePred Blank := fun char =>
  inferInstanceAs (Decidable (char = ' ' ∨ char = '\n' ∨ char = '\t' ∨ char = '\r'))

inductive Blanks : List Char → List Char → Prop where
  | none {rest : List Char} : Blanks rest rest
  | more {char : Char} {text rest : List Char} (blank : Blank char) (later : Blanks text rest) :
      Blanks (char :: text) rest

/-- A hexadecimal digit and its value. Letters may be of either case. -/
def HexDigit (digit : Char) (value : Nat) : Prop :=
  "0123456789abcdef".toList[value]? = some digit ∨ "0123456789ABCDEF".toList[value]? = some digit

def shortEscapes : List (Char × Char) :=
  [('"', '"'), ('\\', '\\'), ('/', '/'), ('b', '\x08'), ('f', '\x0c'), ('n', '\n'), ('r', '\r'),
    ('t', '\t')]

inductive HexQuad : List Char → Nat → List Char → Prop where
  | digits {first second third fourth : Char} {a b c d : Nat} {rest : List Char}
      (firstDigit : HexDigit first a) (secondDigit : HexDigit second b)
      (thirdDigit : HexDigit third c) (fourthDigit : HexDigit fourth d) :
      HexQuad (first :: second :: third :: fourth :: rest)
        (a * 0x1000 + b * 0x100 + c * 0x10 + d) rest

/-- One piece of a literal and the character that it spells. The two surrogates of a pair are the
character's code point above the basic plane, cut after its tenth bit. -/
inductive Piece : List Char → Char → List Char → Prop where
  | plain {char : Char} {rest : List Char} (noQuote : char ≠ '"') (noEscape : char ≠ '\\')
      (noControl : 0x20 ≤ char.toNat) : Piece (char :: rest) char rest
  | short {mark char : Char} {rest : List Char} (known : (mark, char) ∈ shortEscapes) :
      Piece ('\\' :: mark :: rest) char rest
  | codePoint {text rest : List Char} {char : Char} (written : HexQuad text char.toNat rest) :
      Piece ('\\' :: 'u' :: text) char rest
  | pair {text middle rest : List Char} {char : Char} {high low : Nat}
      (leading : HexQuad text (0xD800 + high) ('\\' :: 'u' :: middle))
      (trailing : HexQuad middle (0xDC00 + low) rest) (lowBits : low < 0x400)
      (whole : char.toNat = 0x10000 + high * 0x400 + low) : Piece ('\\' :: 'u' :: text) char rest

/-- A literal from behind its opening quote, and the characters that it spells. -/
inductive Literal : List Char → List Char → List Char → Prop where
  | close {rest : List Char} : Literal ('"' :: rest) [] rest
  | piece {text middle rest : List Char} {char : Char} {more : List Char}
      (first : Piece text char middle) (later : Literal middle more rest) :
      Literal text (char :: more) rest

/-- One piece of a literal that is not decoded: any four hexadecimal digits may follow `\u`. -/
inductive LoosePiece : List Char → List Char → Prop where
  | plain {char : Char} {rest : List Char} (noQuote : char ≠ '"') (noEscape : char ≠ '\\')
      (noControl : 0x20 ≤ char.toNat) : LoosePiece (char :: rest) rest
  | short {mark char : Char} {rest : List Char} (known : (mark, char) ∈ shortEscapes) :
      LoosePiece ('\\' :: mark :: rest) rest
  | codePoint {text rest : List Char} {unit : Nat} (written : HexQuad text unit rest) :
      LoosePiece ('\\' :: 'u' :: text) rest

inductive LooseLiteral : List Char → List Char → Prop where
  | close {rest : List Char} : LooseLiteral ('"' :: rest) rest
  | piece {text middle rest : List Char} (first : LoosePiece text middle)
      (later : LooseLiteral middle rest) : LooseLiteral text rest

end GraphicsProfile.Document.Grammar
