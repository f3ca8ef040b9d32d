import GraphicsProfile.Registry

/-!
Writing a registry as a document.

The document is an object over several lines, indented by two spaces: the name first, then the
bindings in ascending order with one line each. No line feed ends it.
-/

namespace GraphicsProfile.Document

/-- A character below 16 in hexadecimal. -/
def hexDigit (value : Nat) : Char :=
  Nat.digitChar value

/-- How a character is written in a literal. Only the quote, the backslash and the control
characters below the space are escaped. -/
def writeChar : Char → List Char
  | '"' => ['\\', '"']
  | '\\' => ['\\', '\\']
  | '\x08' => ['\\', 'b']
  | '\t' => ['\\', 't']
  | '\n' => ['\\', 'n']
  | '\x0c' => ['\\', 'f']
  | '\r' => ['\\', 'r']
  | char =>
    if char.toNat < 0x20 then
      ['\\', 'u', '0', '0', hexDigit (char.toNat / 16), hexDigit (char.toNat % 16)]
    else
      [char]

def writeLiteral (text : String) : List Char :=
  '"' :: (text.toList.flatMap writeChar ++ ['"'])

def writeBinding (binding : String × UInt32) : List Char :=
  "\n    ".toList ++ writeLiteral binding.1 ++ ": ".toList ++ Nat.toDigits 10 binding.2.toNat

def writeBindings : List (String × UInt32) → List Char
  | [] => ['{', '}']
  | first :: later =>
    '{' :: writeBinding first ++ later.flatMap (fun binding => ',' :: writeBinding binding) ++
      "\n  \x7d".toList

def writeRegistry (registry : Registry) : List Char :=
  "\x7b\n  \"name\": ".toList ++ writeLiteral registry.name ++ ",\n  \"enums\": ".toList ++
    writeBindings registry.bindings.entries ++ "\n\x7d".toList

end GraphicsProfile.Document

namespace GraphicsProfile

/-- The document that describes a registry. -/
def Registry.toDocument (registry : Registry) : String :=
  String.ofList (Document.writeRegistry registry)

end GraphicsProfile
