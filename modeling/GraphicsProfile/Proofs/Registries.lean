import GraphicsProfile.Proofs.Tables
import GraphicsProfile.Registry

namespace GraphicsProfile.Registry

open Table

variable {registry left right : Registry} {name other : String} {code : UInt32}

theorem find?_bind : (registry.bind name code).find? other =
    if other = name then some code else registry.find? other :=
  find?_insert

/-- Bindings that are set one after the other change the table alone. -/
theorem foldl_bind (registry : Registry) (bindings : List (String × UInt32)) :
    bindings.foldl (fun registry binding => registry.bind binding.1 binding.2) registry =
      ⟨registry.name, bindings.foldl (fun table binding => table.insert binding.1 binding.2)
        registry.bindings⟩ := by
  induction bindings generalizing registry with
  | nil => rfl
  | cons binding bindings ih => exact ih (registry.bind binding.1 binding.2)

/-- A registry is its name and what its look-ups find. -/
theorem eq_of_find? (sameName : left.name = right.name)
    (sameCodes : ∀ name, left.find? name = right.find? name) : left = right := by
  obtain ⟨leftName, leftBindings⟩ := left
  obtain ⟨rightName, rightBindings⟩ := right
  have sameBindings : leftBindings = rightBindings := Table.eq_of_find? sameCodes
  have equalNames : leftName = rightName := sameName
  rw [sameBindings, equalNames]

end GraphicsProfile.Registry
