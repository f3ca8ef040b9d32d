import GraphicsProfile.Document.Grammar.Literal

namespace GraphicsProfile.Document.Grammar

inductive Digits : List Char → List Char → List Char → Prop where
  | last {digit : Char} {rest : List Char} (decimal : digit.isDigit = true) :
      Digits (digit :: rest) [digit] rest
  | more {digit : Char} {text digits rest : List Char} (decimal : digit.isDigit = true)
      (later : Digits text digits rest) : Digits (digit :: text) (digit :: digits) rest

def decimalValue (digits : List Char) : Nat :=
  Nat.ofDigitChars 10 digits 0

/-- A whole number without sign. A leading zero stands alone. -/
inductive Whole : List Char → List Char → List Char → Prop where
  | digits {text digits rest : List Char} (row : Digits text digits rest)
      (noLeadingZero : digits.head? = some '0' → digits = ['0']) : Whole text digits rest

inductive Fraction : List Char → List Char → Prop where
  | none {rest : List Char} : Fraction rest rest
  | digits {text digits rest : List Char} (row : Digits text digits rest) :
      Fraction ('.' :: text) rest

inductive Sign : List Char → List Char → Prop where
  | none {rest : List Char} : Sign rest rest
  | plus {rest : List Char} : Sign ('+' :: rest) rest
  | minus {rest : List Char} : Sign ('-' :: rest) rest

inductive Exponent : List Char → List Char → Prop where
  | none {rest : List Char} : Exponent rest rest
  | digits {mark : Char} {text unsigned digits rest : List Char}
      (marked : mark = 'e' ∨ mark = 'E') (sign : Sign text unsigned)
      (row : Digits unsigned digits rest) : Exponent (mark :: text) rest

inductive Unsigned : List Char → List Char → Prop where
  | parts {text digits behindWhole behindFraction rest : List Char}
      (whole : Whole text digits behindWhole) (fraction : Fraction behindWhole behindFraction)
      (exponent : Exponent behindFraction rest) : Unsigned text rest

/-- A number of any size and precision. -/
inductive AnyNumber : List Char → List Char → Prop where
  | plain {text rest : List Char} (unsigned : Unsigned text rest) : AnyNumber text rest
  | negative {text rest : List Char} (unsigned : Unsigned text rest) :
      AnyNumber ('-' :: text) rest

mutual

inductive Value : List Char → List Char → Prop where
  | null {rest : List Char} : Value ('n' :: 'u' :: 'l' :: 'l' :: rest) rest
  | yes {rest : List Char} : Value ('t' :: 'r' :: 'u' :: 'e' :: rest) rest
  | no {rest : List Char} : Value ('f' :: 'a' :: 'l' :: 's' :: 'e' :: rest) rest
  | number {text rest : List Char} (form : AnyNumber text rest) : Value text rest
  | literal {text rest : List Char} (form : LooseLiteral text rest) : Value ('"' :: text) rest
  | emptyList {text rest : List Char} (blanks : Blanks text (']' :: rest)) :
      Value ('[' :: text) rest
  | list {text rest : List Char} (elements : Elements text rest) : Value ('[' :: text) rest
  | emptyObject {text rest : List Char} (blanks : Blanks text ('}' :: rest)) :
      Value ('{' :: text) rest
  | object {text rest : List Char} (members : Members text rest) : Value ('{' :: text) rest

/-- The elements of a list that is not empty, through the closing bracket. -/
inductive Elements : List Char → List Char → Prop where
  | last {text value behind rest : List Char} (before : Blanks text value)
      (element : Value value behind) (after : Blanks behind (']' :: rest)) : Elements text rest
  | more {text value behind later rest : List Char} (before : Blanks text value)
      (element : Value value behind) (after : Blanks behind (',' :: later))
      (elements : Elements later rest) : Elements text rest

inductive Members : List Char → List Char → Prop where
  | last {text key colon separated value behind rest : List Char}
      (before : Blanks text ('"' :: key)) (name : LooseLiteral key colon)
      (around : Blanks colon (':' :: separated)) (space : Blanks separated value)
      (member : Value value behind) (after : Blanks behind ('}' :: rest)) : Members text rest
  | more {text key colon separated value behind later rest : List Char}
      (before : Blanks text ('"' :: key)) (name : LooseLiteral key colon)
      (around : Blanks colon (':' :: separated)) (space : Blanks separated value)
      (member : Value value behind) (after : Blanks behind (',' :: later))
      (members : Members later rest) : Members text rest

end

end GraphicsProfile.Document.Grammar
