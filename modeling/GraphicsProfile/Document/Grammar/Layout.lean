import GraphicsProfile.Document.Grammar.Profile
import GraphicsProfile.Document.Grammar.Spelling

namespace GraphicsProfile.Document.Grammar

/-- The line of a binding, without the comma that follows it if it is not the last one. -/
inductive Row : String × UInt32 → List Char → Prop where
  | line {name : String} {code : UInt32} {spelling digits : List Char}
      (spelled : Spelling spelling name.toList) (form : Code digits code []) :
      Row (name, code) ("    \"".toList ++ spelling ++ "\": ".toList ++ digits)

inductive Rows : List (String × UInt32) → List (List Char) → Prop where
  | last {binding : String × UInt32} {line : List Char} (row : Row binding line) :
      Rows [binding] [line]
  | more {binding : String × UInt32} {line : List Char} {bindings : List (String × UInt32)}
      {lines : List (List Char)} (row : Row binding line) (later : Rows bindings lines) :
      Rows (binding :: bindings) ((line ++ [',']) :: lines)

inductive Sheet (name : String) : List (String × UInt32) → List (List Char) → Prop where
  | unbound {spelling : List Char} (spelled : Spelling spelling name.toList) :
      Sheet name [] ["\x7b".toList, "  \"name\": \"".toList ++ spelling ++ "\",".toList,
        "  \"enums\": \x7b\x7d".toList, "\x7d".toList]
  | bound {spelling : List Char} {bindings : List (String × UInt32)} {lines : List (List Char)}
      (spelled : Spelling spelling name.toList) (rows : Rows bindings lines) :
      Sheet name bindings (["\x7b".toList, "  \"name\": \"".toList ++ spelling ++ "\",".toList,
        "  \"enums\": \x7b".toList] ++ lines ++ ["  \x7d".toList, "\x7d".toList])

end GraphicsProfile.Document.Grammar
