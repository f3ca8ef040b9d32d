import GraphicsProfile.Document.Fault
import GraphicsProfile.Document.Grammar.Value
import GraphicsProfile.Registry

namespace GraphicsProfile.Document.Grammar

variable {α : Type}

/-- Items that are each followed by a comma. -/
inductive Leading (item : List Char → α → List Char → Prop) :
    List Char → List α → List Char → Prop where
  | none {rest : List Char} : Leading item rest [] rest
  | more {text behind later rest : List Char} {value : α} {values : List α}
      (first : item text value behind) (comma : Blanks behind (',' :: later))
      (others : Leading item later values rest) : Leading item text (value :: values) rest

/-- The members of an object from behind its opening brace through the closing one. -/
inductive Enclosed (item : List Char → α → List Char → Prop) :
    List Char → List α → List Char → Prop where
  | empty {text rest : List Char} (blanks : Blanks text ('}' :: rest)) : Enclosed item text [] rest
  | items {text last behind rest : List Char} {values : List α} {value : α}
      (leading : Leading item text values last) (final : item last value behind)
      (close : Blanks behind ('}' :: rest)) : Enclosed item text (values ++ [value]) rest

inductive Key : List Char → String → List Char → Prop where
  | quoted {text literal colon rest : List Char} {key : String}
      (before : Blanks text ('"' :: literal)) (spelled : Literal literal key.toList colon)
      (around : Blanks colon (':' :: rest)) : Key text key rest

inductive Code : List Char → UInt32 → List Char → Prop where
  | whole {text digits rest : List Char} {code : UInt32} (form : Whole text digits rest)
      (value : decimalValue digits = code.toNat) : Code text code rest

inductive Binding : List Char → String × UInt32 → List Char → Prop where
  | member {text separated value rest : List Char} {name : String} {code : UInt32}
      (key : Key text name separated) (space : Blanks separated value)
      (form : Code value code rest) : Binding text (name, code) rest

/-- What a member of a document contributes. -/
inductive Contribution where
  | name (name : String)
  | bindings (bindings : List (String × UInt32))
  | nothing
  deriving DecidableEq

inductive Member : List Char → Contribution → List Char → Prop where
  | name {text separated literal rest : List Char} {name : String}
      (key : Key text "name" separated) (space : Blanks separated ('"' :: literal))
      (spelled : Literal literal name.toList rest) : Member text (.name name) rest
  | bindings {text separated members rest : List Char} {bindings : List (String × UInt32)}
      (key : Key text "enums" separated) (space : Blanks separated ('{' :: members))
      (form : Enclosed Binding members bindings rest) : Member text (.bindings bindings) rest
  | other {text separated value rest : List Char} {unknown : String}
      (key : Key text unknown separated) (unnamed : unknown ≠ "name")
      (unbound : unknown ≠ "enums") (space : Blanks separated value)
      (form : Value value rest) : Member text .nothing rest

def Contribution.name? : Contribution → Option String
  | name held => some held
  | _ => none

def Contribution.bindings? : Contribution → Option (List (String × UInt32))
  | bindings held => some held
  | _ => none

def Contribution.field? : Contribution → Option Field
  | name _ => some .name
  | bindings _ => some .bindings
  | nothing => none

def Unrepeated (contributions : List Contribution) : Prop :=
  (contributions.filterMap Contribution.name?).length ≤ 1 ∧
    (contributions.filterMap Contribution.bindings?).length ≤ 1

/-- A whole document, the name that it gives and its bindings in the order in which they stand. -/
inductive Gives : List Char → String → List (String × UInt32) → Prop where
  | object {text members behind : List Char} {contributions : List Contribution}
      (before : Blanks text ('{' :: members)) (form : Enclosed Member members contributions behind)
      (after : Blanks behind []) (unrepeated : Unrepeated contributions) :
      Gives text ((contributions.findSome? Contribution.name?).getD "")
        ((contributions.findSome? Contribution.bindings?).getD [])
  | emptyList {text elements behind : List Char} (before : Blanks text ('[' :: elements))
      (close : Blanks elements (']' :: behind)) (after : Blanks behind []) : Gives text "" []
  | nameList {text elements literal behindName behind : List Char} {name : String}
      (before : Blanks text ('[' :: elements)) (first : Blanks elements ('"' :: literal))
      (spelled : Literal literal name.toList behindName)
      (close : Blanks behindName (']' :: behind)) (after : Blanks behind []) : Gives text name []
  | fullList {text elements literal behindName second members behindBindings behind : List Char}
      {name : String} {bindings : List (String × UInt32)}
      (before : Blanks text ('[' :: elements)) (first : Blanks elements ('"' :: literal))
      (spelled : Literal literal name.toList behindName)
      (comma : Blanks behindName (',' :: second)) (opening : Blanks second ('{' :: members))
      (form : Enclosed Binding members bindings behindBindings)
      (close : Blanks behindBindings (']' :: behind)) (after : Blanks behind []) :
      Gives text name bindings

def describedRegistry (name : String) (bindings : List (String × UInt32)) : Registry :=
  bindings.foldl (fun registry binding => registry.bind binding.1 binding.2) (.named name)

def Describes (text : List Char) (registry : Registry) : Prop :=
  ∃ name bindings, Gives text name bindings ∧ registry = describedRegistry name bindings

/-- The front of a document, up to a value that has to be of the kind of the given place. -/
inductive Front : List Char → Place → List Char → Prop where
  | document {text rest : List Char} (before : Blanks text rest) : Front text .document rest
  | nameMember {text members last separated rest : List Char} {contributions : List Contribution}
      (before : Blanks text ('{' :: members)) (leading : Leading Member members contributions last)
      (fresh : contributions.findSome? Contribution.name? = none)
      (unrepeated : Unrepeated contributions)
      (key : Key last "name" separated) (space : Blanks separated rest) :
      Front text .name rest
  | bindingsMember {text members last separated rest : List Char}
      {contributions : List Contribution}
      (before : Blanks text ('{' :: members)) (leading : Leading Member members contributions last)
      (fresh : contributions.findSome? Contribution.bindings? = none)
      (unrepeated : Unrepeated contributions)
      (key : Key last "enums" separated) (space : Blanks separated rest) :
      Front text .bindings rest
  | nameElement {text elements rest : List Char} (before : Blanks text ('[' :: elements))
      (first : Blanks elements rest) : Front text .name rest
  | bindingsElement {text elements literal behindName second rest : List Char} {name : String}
      (before : Blanks text ('[' :: elements)) (first : Blanks elements ('"' :: literal))
      (spelled : Literal literal name.toList behindName)
      (comma : Blanks behindName (',' :: second)) (space : Blanks second rest) :
      Front text .bindings rest
  | code {text members last separated rest : List Char} {bindings : List (String × UInt32)}
      {name : String} (front : Front text .bindings ('{' :: members))
      (leading : Leading Binding members bindings last) (key : Key last name separated)
      (space : Blanks separated rest) : Front text .code rest

/-- The start of a value that the given place does not take: what messages call the value, the
bracket that tells its kind without being taken, and what stands behind it. -/
inductive Misfit : Place → List Char → String → List Char → List Char → Prop where
  | null {place : Place} {rest : List Char} :
      Misfit place ('n' :: 'u' :: 'l' :: 'l' :: rest) "null" [] rest
  | yes {place : Place} {rest : List Char} :
      Misfit place ('t' :: 'r' :: 'u' :: 'e' :: rest) "boolean `true`" [] rest
  | no {place : Place} {rest : List Char} :
      Misfit place ('f' :: 'a' :: 'l' :: 's' :: 'e' :: rest) "boolean `false`" [] rest
  | literal {place : Place} {text rest : List Char} {spelled : String} (elsewhere : place ≠ .name)
      (form : Literal text spelled.toList rest) :
      Misfit place ('"' :: text) ("string " ++ Text.quote spelled) [] rest
  | list {place : Place} {rest : List Char} (elsewhere : place ≠ .document) :
      Misfit place ('[' :: rest) "sequence" ['['] rest
  | object {place : Place} {rest : List Char} (elsewhere : place = .name ∨ place = .code) :
      Misfit place ('{' :: rest) "map" ['{'] rest

inductive MemberQuote : List Char → List Char → Prop where
  | quote {text members last spelled : List Char} {contributions : List Contribution}
      (before : Blanks text ('{' :: members)) (leading : Leading Member members contributions last)
      (unrepeated : Unrepeated contributions) (opening : Blanks last ('"' :: spelled)) :
      MemberQuote text spelled

inductive BindingQuote : List Char → List Char → Prop where
  | quote {text members last spelled : List Char} {bindings : List (String × UInt32)}
      (front : Front text .bindings ('{' :: members))
      (leading : Leading Binding members bindings last) (opening : Blanks last ('"' :: spelled)) :
      BindingQuote text spelled

/-- A document through a key that spells the key of a field once more. -/
inductive Repeats (field : Field) : List Char → List Char → Prop where
  | key {text members last spelled behind : List Char} {contributions : List Contribution}
      (before : Blanks text ('{' :: members)) (leading : Leading Member members contributions last)
      (unrepeated : Unrepeated contributions)
      (present : ∃ contribution ∈ contributions, contribution.field? = some field)
      (quote : Blanks last ('"' :: spelled)) (again : Literal spelled field.key.toList behind) :
      Repeats field text behind

inductive BlanksAndBrace : List Char → List Char → Prop where
  | brace {text rest : List Char} (blanks : Blanks text ('}' :: rest)) : BlanksAndBrace text rest
  | another {text rest : List Char} {char : Char} (blanks : Blanks text (char :: rest))
      (visible : ¬ Blank char) (noBrace : char ≠ '}') : BlanksAndBrace text (char :: rest)
  | ended {text : List Char} (blanks : Blanks text []) : BlanksAndBrace text []

end GraphicsProfile.Document.Grammar
