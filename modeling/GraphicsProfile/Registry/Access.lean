import GraphicsProfile.Accessor
import GraphicsProfile.Event
import GraphicsProfile.ProfileError
import GraphicsProfile.Registry

/-!
Access to a registry that keeps a log: setting bindings, and asking for codes and for the sizes of
accessors.

Each question comes in three strengths. The plain one answers zero on a miss, so that a name bound
to zero looks like an unbound one; the optional one answers nothing; the strict one is an error.
All of them log the miss.
-/

namespace GraphicsProfile.Registry

variable (registry : Registry)

/-- The event of binding a name to a code, given the code it is bound to. -/
def bindingEvent (name : String) (code : UInt32) : Option UInt32 → Event
  | some old =>
    if old = code then .bindingSet registry.name name code
    else .bindingOverwritten registry.name name old code
  | none => .bindingSet registry.name name code

/-- Binds a name to a code. Only a change of the code that a name had is a warning. -/
def set (name : String) (code : UInt32) : Logged Registry :=
  ⟨registry.bind name code, [registry.bindingEvent name code (registry.find? name)]⟩

def code? (name : String) : Logged (Option UInt32) :=
  match registry.find? name with
  | some code => .silent (some code)
  | none => ⟨none, [.bindingMissed registry.name name]⟩

def codeOrZero (name : String) : Logged UInt32 :=
  (registry.code? name).map (·.getD 0)

def codeOrError (name : String) : Logged (Except ProfileError UInt32) :=
  (registry.code? name).map fun
    | some code => .ok code
    | none => .error (.missingBinding name)

/-- The code of a component type's name. -/
def componentTypeCode (type : ComponentType) : Logged UInt32 :=
  registry.codeOrZero type.enumName

def componentCount? (typeName : String) : Logged (Option Nat) :=
  match componentsOf? typeName with
  | some count => .silent (some count)
  | none => ⟨none, [.typeUnknown registry.name typeName]⟩

def componentCountOrZero (typeName : String) : Logged Nat :=
  (registry.componentCount? typeName).map (·.getD 0)

def componentCountOrError (typeName : String) : Logged (Except ProfileError Nat) :=
  (registry.componentCount? typeName).map fun
    | some count => .ok count
    | none => .error (.unknownType typeName)

/-- The size of an element in bytes. -/
def elementSize? (typeName : String) (type : ComponentType) : Logged (Option Nat) :=
  (registry.componentCount? typeName).map (·.map (· * type.byteSize))

end GraphicsProfile.Registry
