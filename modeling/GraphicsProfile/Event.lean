namespace GraphicsProfile

inductive Level where
  | debug
  | warn
  | trace
  deriving DecidableEq

def Level.label : Level → String
  | debug => "DEBUG"
  | warn => "WARN"
  | trace => "TRACE"

/-- What happened, and to the profile of which name. -/
inductive Event where
  | presetLoaded (profile : String) (count : Nat)
  | documentLoaded (profile : String) (count : Nat)
  | bindingSet (profile name : String) (code : UInt32)
  | bindingOverwritten (profile name : String) (old new : UInt32)
  | bindingMissed (profile name : String)
  | typeUnknown (profile typeName : String)
  | profileFrozen (profile : String) (count : Nat)
  deriving DecidableEq

/-- The value of a field of an event. -/
inductive FieldValue where
  | text (value : String)
  | number (value : Nat)
  deriving DecidableEq

namespace Event

def level : Event → Level
  | presetLoaded .. | documentLoaded .. | bindingSet .. | profileFrozen .. => .debug
  | bindingOverwritten .. => .warn
  | bindingMissed .. | typeUnknown .. => .trace

def message : Event → String
  | presetLoaded .. => "loaded preset"
  | documentLoaded .. => "loaded profile document"
  | bindingSet .. => "enum binding set"
  | bindingOverwritten .. => "enum binding overwritten"
  | bindingMissed .. => "enum binding miss"
  | typeUnknown .. => "unknown accessor type"
  | profileFrozen .. => "profile frozen"

/-- The name of the profile that the event is about. -/
def profile : Event → String
  | presetLoaded profile _ | documentLoaded profile _ | bindingSet profile _ _
  | bindingOverwritten profile _ _ _ | bindingMissed profile _ | typeUnknown profile _
  | profileFrozen profile _ => profile

def details : Event → List (String × FieldValue)
  | presetLoaded _ count | documentLoaded _ count | profileFrozen _ count =>
    [("count", .number count)]
  | bindingSet _ name code => [("name", .text name), ("code", .number code.toNat)]
  | bindingOverwritten _ name old new =>
    [("name", .text name), ("old", .number old.toNat), ("new", .number new.toNat)]
  | bindingMissed _ name => [("name", .text name)]
  | typeUnknown _ typeName => [("type_name", .text typeName)]

def fields (event : Event) : List (String × FieldValue) :=
  ("profile", .text event.profile) :: event.details

end Event

/-- A value, and the events that were logged on the way to it. -/
structure Logged (α : Type) where
  value : α
  log : List Event
  deriving DecidableEq

namespace Logged

variable {α β : Type}

def silent (value : α) : Logged α :=
  ⟨value, []⟩

def map (change : α → β) (logged : Logged α) : Logged β :=
  ⟨change logged.value, logged.log⟩

end Logged

end GraphicsProfile
