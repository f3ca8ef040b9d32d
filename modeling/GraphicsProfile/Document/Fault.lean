import GraphicsProfile.Decimal.Notation
import GraphicsProfile.Text.Position
import GraphicsProfile.Text.Quoted

/-!
What can be wrong with a document, where it is reported, and in which words.

A fault is placed by how many bytes of the document are left behind the reported place. It is then
the same fault whatever stood before the text that shows it.
-/

namespace GraphicsProfile.Document

open GraphicsProfile.Text

inductive Place where
  | document
  | name
  | bindings
  | code
  deriving DecidableEq

inductive Field where
  | name
  | bindings
  deriving DecidableEq

/-- A value that stands where its kind is not accepted. -/
inductive Found where
  | null
  | boolean (value : Bool)
  | integer (value : Int)
  | real (value : Float)
  | text (value : String)
  | sequence
  | map
  deriving DecidableEq

inductive Cause where
  | endOfValue
  | endOfList
  | endOfObject
  | endOfString
  | expectedColon
  | expectedListComma
  | expectedObjectComma
  | misspelledWord
  | expectedValue
  | invalidEscape
  | invalidNumber
  | numberOutOfRange
  | controlCharacter
  | keyNotString
  | loneSurrogate
  | halfSurrogatePair
  | trailingComma
  | trailingCharacters
  | duplicateField (field : Field)
  | wrongType (found : Found) (place : Place)
  | codeOutOfRange (value : Int)
  deriving DecidableEq

inductive Category where
  | truncated
  | malformed
  | mismatched
  deriving DecidableEq

structure Fault where
  cause : Cause
  left : Nat
  deriving DecidableEq

namespace Cause

/-- Reports a cause in front of the text that is left. -/
def before (cause : Cause) (rest : List Char) : Fault :=
  ⟨cause, byteSize rest⟩

/-- Reports a cause behind the first byte of the text that is left, or at the end of the document
when nothing is left. -/
def behindByte (cause : Cause) (rest : List Char) : Fault :=
  ⟨cause, byteSize rest - 1⟩

def category : Cause → Category
  | endOfValue | endOfList | endOfObject | endOfString => .truncated
  | duplicateField _ | wrongType _ _ | codeOutOfRange _ => .mismatched
  | _ => .malformed

end Cause

def Category.label : Category → String
  | truncated => "eof"
  | malformed => "syntax"
  | mismatched => "data"

def Place.expectation : Place → String
  | document => "struct ProfileRegistry"
  | name => "a string"
  | bindings => "a map"
  | code => "u32"

/-- The key of a field in the object form. -/
def Field.key : Field → String
  | name => "name"
  | bindings => "enums"

def Field.ofKey? : String → Option Field
  | "name" => some name
  | "enums" => some bindings
  | _ => none

def Found.description : Found → String
  | null => "null"
  | boolean true => "boolean `true`"
  | boolean false => "boolean `false`"
  | integer value => "integer `" ++ toString value ++ "`"
  | real value => "floating point `" ++ Decimal.showFloat value ++ "`"
  | text value => "string " ++ quote value
  | sequence => "sequence"
  | map => "map"

def Cause.description : Cause → String
  | endOfValue => "EOF while parsing a value"
  | endOfList => "EOF while parsing a list"
  | endOfObject => "EOF while parsing an object"
  | endOfString => "EOF while parsing a string"
  | expectedColon => "expected `:`"
  | expectedListComma => "expected `,` or `]`"
  | expectedObjectComma => "expected `,` or `\x7d`"
  | misspelledWord => "expected ident"
  | expectedValue => "expected value"
  | invalidEscape => "invalid escape"
  | invalidNumber => "invalid number"
  | numberOutOfRange => "number out of range"
  | controlCharacter => "control character (\\u0000-\\u001F) found while parsing a string"
  | keyNotString => "key must be a string"
  | loneSurrogate => "lone leading surrogate in hex escape"
  | halfSurrogatePair => "unexpected end of hex escape"
  | trailingComma => "trailing comma"
  | trailingCharacters => "trailing characters"
  | duplicateField field => "duplicate field `" ++ field.key ++ "`"
  | wrongType found place =>
    "invalid type: " ++ found.description ++ ", expected " ++ place.expectation
  | codeOutOfRange value =>
    "invalid value: " ++ (Found.integer value).description ++ ", expected " ++
      Place.code.expectation

structure DocumentError where
  cause : Cause
  position : Position
  deriving DecidableEq

def DocumentError.category (error : DocumentError) : Category :=
  error.cause.category

def DocumentError.message (error : DocumentError) : String :=
  error.cause.description ++ " at line " ++ toString error.position.line ++
    " column " ++ toString error.position.column

/-- The error that a fault of the given document amounts to. -/
def Fault.within (fault : Fault) (document : List Char) : DocumentError :=
  ⟨fault.cause, .after ((bytes document).take (byteSize document - fault.left))⟩

end GraphicsProfile.Document
