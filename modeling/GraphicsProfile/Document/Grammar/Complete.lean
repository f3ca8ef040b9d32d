import GraphicsProfile.Document.Grammar.Spelling

/-!
Complete values: the texts that are one value from the first character through the last, said
without what follows them.

A list and an object are written as a row of entries with a comma between each two of them, so that
no comma can be missing, doubled or left over.
-/

namespace GraphicsProfile.Document.Grammar

def Gap (text : List Char) : Prop :=
  ∀ char ∈ text, Blank char

/-- One way to write a character of a literal that is not decoded: any four hexadecimal digits may
follow `\u`. -/
inductive LooseSpells : List Char → Prop where
  | plain {char : Char} (noQuote : char ≠ '"') (noEscape : char ≠ '\\')
      (noControl : 0x20 ≤ char.toNat) : LooseSpells [char]
  | short {mark char : Char} (known : (mark, char) ∈ shortEscapes) : LooseSpells ['\\', mark]
  | codeUnit {word : List Char} {unit : Nat} (written : HexWord word unit) :
      LooseSpells ('\\' :: 'u' :: word)

inductive Quotation : List Char → Prop where
  | pieces {pieces : List (List Char)} (each : ∀ piece ∈ pieces, LooseSpells piece) :
      Quotation ('"' :: (pieces.flatten ++ ['"']))

structure Decimals (row : List Char) : Prop where
  nonempty : row ≠ []
  decimal : ∀ digit ∈ row, digit.isDigit = true

inductive FractionPart : List Char → Prop where
  | none : FractionPart []
  | digits {row : List Char} (decimals : Decimals row) : FractionPart ('.' :: row)

inductive ExponentPart : List Char → Prop where
  | none : ExponentPart []
  | digits {mark : Char} {sign row : List Char} (marked : mark = 'e' ∨ mark = 'E')
      (signed : sign = [] ∨ sign = ['+'] ∨ sign = ['-']) (decimals : Decimals row) :
      ExponentPart (mark :: (sign ++ row))

/-- A number of any size. A leading zero stands alone. -/
inductive Numeral : List Char → Prop where
  | parts {sign whole fraction exponent : List Char} (signed : sign = [] ∨ sign = ['-'])
      (decimals : Decimals whole) (noLeadingZero : whole.head? = some '0' → whole = ['0'])
      (fractional : FractionPart fraction) (exponential : ExponentPart exponent) :
      Numeral (sign ++ (whole ++ (fraction ++ exponent)))

/-- What stands between two commas: something that introduces a value, the value, and what is
behind it. -/
structure Entry where
  lead : List Char
  value : List Char
  trail : List Char

def Entry.text (entry : Entry) : List Char :=
  entry.lead ++ (entry.value ++ entry.trail)

def Entry.join (entries : List Entry) : List Char :=
  [','].intercalate (entries.map Entry.text)

inductive Label : List Char → Prop where
  | key {before key around space : List Char} (gapBefore : Gap before) (quoted : Quotation key)
      (gapAround : Gap around) (gapBehind : Gap space) :
      Label (before ++ (key ++ (around ++ ':' :: space)))

/-- Brackets that match, and what introduces the value of an entry between them. -/
inductive Brackets : Char → Char → (List Char → Prop) → Prop where
  | list : Brackets '[' ']' Gap
  | object : Brackets '{' '}' Label

/-- One value of any depth. -/
inductive Complete : List Char → Prop where
  | null : Complete "null".toList
  | yes : Complete "true".toList
  | no : Complete "false".toList
  | number {text : List Char} (form : Numeral text) : Complete text
  | literal {text : List Char} (form : Quotation text) : Complete text
  | empty {opening closing : Char} {lead : List Char → Prop} {gap : List Char}
      (matching : Brackets opening closing lead) (blank : Gap gap) :
      Complete (opening :: (gap ++ [closing]))
  | filled {opening closing : Char} {lead : List Char → Prop} {entries : List Entry}
      (matching : Brackets opening closing lead) (nonempty : entries ≠ [])
      (leads : ∀ entry ∈ entries, lead entry.lead)
      (values : ∀ entry ∈ entries, Complete entry.value)
      (trails : ∀ entry ∈ entries, Gap entry.trail) :
      Complete (opening :: (Entry.join entries ++ [closing]))

end GraphicsProfile.Document.Grammar
