/-!
Accessors of the asset format: the shape of an element, the machine type of its components, and
the tables that give their names, counts and sizes.

The count table has no entry for two by two matrices. That gap is part of the format spoken here:
such a shape has a name and no count, and whatever asks for its count is answered by zero or by
nothing.
-/

namespace GraphicsProfile

inductive Shape where
  | scalar
  | vec2
  | vec3
  | vec4
  | mat2
  | mat3
  | mat4
  deriving DecidableEq

inductive ComponentType where
  | int8
  | uint8
  | int16
  | uint16
  | uint32
  | float32
  deriving DecidableEq

def componentTable : List (String × Nat) :=
  [("SCALAR", 1), ("VEC2", 2), ("VEC3", 3), ("VEC4", 4), ("MAT3", 9), ("MAT4", 16)]

/-- The type name that the count table leaves out. -/
def uncountedTypeName : String := "MAT2"

def componentsOf? (typeName : String) : Option Nat :=
  componentTable.lookup typeName

namespace Shape

def typeName : Shape → String
  | scalar => "SCALAR"
  | vec2 => "VEC2"
  | vec3 => "VEC3"
  | vec4 => "VEC4"
  | mat2 => "MAT2"
  | mat3 => "MAT3"
  | mat4 => "MAT4"

def ofTypeName? : String → Option Shape
  | "SCALAR" => some scalar
  | "VEC2" => some vec2
  | "VEC3" => some vec3
  | "VEC4" => some vec4
  | "MAT2" => some mat2
  | "MAT3" => some mat3
  | "MAT4" => some mat4
  | _ => none

/-- The count of the shape's type name, or zero where the table has none. -/
def componentCount (shape : Shape) : Nat :=
  (componentsOf? shape.typeName).getD 0

/-- The graphics library's name for a float variable of this shape. -/
def floatEnumName : Shape → String
  | scalar => "FLOAT"
  | vec2 => "FLOAT_VEC2"
  | vec3 => "FLOAT_VEC3"
  | vec4 => "FLOAT_VEC4"
  | mat2 => "FLOAT_MAT2"
  | mat3 => "FLOAT_MAT3"
  | mat4 => "FLOAT_MAT4"

end Shape

namespace ComponentType

def byteSize : ComponentType → Nat
  | int8 | uint8 => 1
  | int16 | uint16 => 2
  | uint32 | float32 => 4

def enumName : ComponentType → String
  | int8 => "BYTE"
  | uint8 => "UNSIGNED_BYTE"
  | int16 => "SHORT"
  | uint16 => "UNSIGNED_SHORT"
  | uint32 => "UNSIGNED_INT"
  | float32 => "FLOAT"

end ComponentType

end GraphicsProfile
