import GraphicsProfile.Document.Grammar.Profile

namespace GraphicsProfile.Document.Grammar

/-- A number without sign that ends behind its point, its exponent mark or its exponent's sign. -/
inductive UnfinishedUnsigned : List Char → Prop where
  | fraction {text digits : List Char} (whole : Whole text digits ['.']) : UnfinishedUnsigned text
  | exponent {text digits behindWhole signed : List Char} {mark : Char}
      (whole : Whole text digits behindWhole) (fraction : Fraction behindWhole (mark :: signed))
      (marked : mark = 'e' ∨ mark = 'E') (sign : Sign signed []) : UnfinishedUnsigned text

inductive UnfinishedNumber : List Char → Prop where
  | sign : UnfinishedNumber ['-']
  | plain {text : List Char} (unsigned : UnfinishedUnsigned text) : UnfinishedNumber text
  | negative {text : List Char} (unsigned : UnfinishedUnsigned text) :
      UnfinishedNumber ('-' :: text)

inductive Element : List Char → Unit → List Char → Prop where
  | element {text value rest : List Char} (before : Blanks text value) (form : Value value rest) :
      Element text () rest

inductive LooseKey : List Char → List Char → Prop where
  | quoted {text key colon separated value : List Char} (before : Blanks text ('"' :: key))
      (name : LooseLiteral key colon) (around : Blanks colon (':' :: separated))
      (space : Blanks separated value) : LooseKey text value

inductive Pair : List Char → Unit → List Char → Prop where
  | pair {text value rest : List Char} (key : LooseKey text value) (form : Value value rest) :
      Pair text () rest

/-- The front of a value, up to a place in it where a value has to stand: at its own start, or
inside one of its elements or members. -/
inductive Within : List Char → List Char → Prop where
  | here {text : List Char} : Within text text
  | element {text last value rest : List Char} {siblings : List Unit}
      (leading : Leading Element text siblings last) (before : Blanks last value)
      (deeper : Within value rest) : Within ('[' :: text) rest
  | member {text last value rest : List Char} {siblings : List Unit}
      (leading : Leading Pair text siblings last) (key : LooseKey last value)
      (deeper : Within value rest) : Within ('{' :: text) rest

inductive CutMember : List Char → Prop where
  | other {text separated value number : List Char} {unknown : String}
      (key : Key text unknown separated) (unnamed : unknown ≠ "name")
      (unbound : unknown ≠ "enums") (space : Blanks separated value)
      (within : Within value number) (unfinished : UnfinishedNumber number) : CutMember text

/-- A document that ends inside a number of a member without meaning, where a digit has to
follow. -/
inductive CutInNumber : List Char → Prop where
  | object {text members last : List Char} {contributions : List Contribution}
      (before : Blanks text ('{' :: members)) (leading : Leading Member members contributions last)
      (cut : CutMember last) : CutInNumber text

end GraphicsProfile.Document.Grammar
