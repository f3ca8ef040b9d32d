import GraphicsProfile.Text.Unprintable

/-!
Quoted text as messages show it: between double quotes, with two-character escapes for tab,
carriage return, line feed, NUL, the quote and the backslash, and with every other hidden
character written as its code point. Which characters are hidden is a parameter.
-/

namespace GraphicsProfile.Text

/-- The code point in hexadecimal, lower case and without leading zeros. -/
def codePointDigits (char : Char) : List Char :=
  Nat.toDigits 16 char.toNat

/-- How one character stands inside the quotes. -/
def quoteChar (hidden : Char → Bool) : Char → List Char
  | '\t' => ['\\', 't']
  | '\r' => ['\\', 'r']
  | '\n' => ['\\', 'n']
  | '\x00' => ['\\', '0']
  | '"' => ['\\', '"']
  | '\\' => ['\\', '\\']
  | char =>
    if hidden char then ['\\', 'u', '{'] ++ codePointDigits char ++ ['}'] else [char]

def quoteWith (hidden : Char → Bool) (text : List Char) : List Char :=
  '"' :: (text.flatMap (quoteChar hidden) ++ ['"'])

/-- Quotes a text so that only printable characters stand for themselves. -/
def quote (text : String) : String :=
  String.ofList (quoteWith isUnprintable text.toList)

end GraphicsProfile.Text
