import GraphicsProfile.Table

namespace GraphicsProfile

/-- A named table of codes: the number a runtime uses for each of its named constants. -/
structure Registry where
  name : String
  bindings : Table UInt32
  deriving DecidableEq

namespace Registry

/-- The registry without bindings. -/
def named (name : String) : Registry :=
  ⟨name, .empty⟩

def blank : Registry :=
  named ""

def bind (registry : Registry) (name : String) (code : UInt32) : Registry :=
  { registry with bindings := registry.bindings.insert name code }

def find? (registry : Registry) (name : String) : Option UInt32 :=
  registry.bindings.find? name

def contains (registry : Registry) (name : String) : Bool :=
  registry.bindings.contains name

/-- The bound names in ascending order. -/
def names (registry : Registry) : List String :=
  registry.bindings.names

def size (registry : Registry) : Nat :=
  registry.bindings.size

def isEmpty (registry : Registry) : Bool :=
  registry.bindings.isEmpty

end Registry

end GraphicsProfile
