import GraphicsProfile.Document.Writing
import GraphicsProfile.Registry.Access

/-!
A profile is a registry that has been frozen: it answers every question of its registry in the
same way and log, and no binding of it can be set. A registry derived from it is independent.
-/

namespace GraphicsProfile

/-- A frozen registry. -/
structure Profile where
  frozen : Registry
  deriving DecidableEq

def Registry.freeze (registry : Registry) : Logged Profile :=
  ⟨⟨registry⟩, [.profileFrozen registry.name registry.size]⟩

namespace Profile

variable (profile : Profile)

def name : String := profile.frozen.name

def codeOrZero (name : String) : Logged UInt32 := profile.frozen.codeOrZero name

def code? (name : String) : Logged (Option UInt32) := profile.frozen.code? name

def codeOrError (name : String) : Logged (Except ProfileError UInt32) :=
  profile.frozen.codeOrError name

def contains (name : String) : Bool := profile.frozen.contains name

def names : List String := profile.frozen.names

def size : Nat := profile.frozen.size

def isEmpty : Bool := profile.frozen.isEmpty

def componentCountOrZero (typeName : String) : Logged Nat := profile.frozen.componentCountOrZero typeName

def componentCount? (typeName : String) : Logged (Option Nat) :=
  profile.frozen.componentCount? typeName

def componentCountOrError (typeName : String) : Logged (Except ProfileError Nat) :=
  profile.frozen.componentCountOrError typeName

def elementSize? (typeName : String) (type : ComponentType) : Logged (Option Nat) :=
  profile.frozen.elementSize? typeName type

def componentTypeCode (type : ComponentType) : Logged UInt32 :=
  profile.frozen.componentTypeCode type

def toDocument : String := profile.frozen.toDocument

/-- A registry of its own with the same name and bindings. -/
def toRegistry : Registry := profile.frozen

end Profile

end GraphicsProfile
