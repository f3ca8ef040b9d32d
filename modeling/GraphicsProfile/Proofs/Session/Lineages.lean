import GraphicsProfile.Proofs.Registries
import GraphicsProfile.Session.Lineage
import Mathlib.Data.Set.Card

namespace GraphicsProfile.Session

variable {slots : Slots} {lineages : Table Lineage} {lineage : Lineage} {slot : String}

namespace Lineage

/-- The origin with all settings applied to it. -/
def registry (lineage : Lineage) : Registry :=
  lineage.settings.foldl (fun registry setting => registry.bind setting.1 setting.2) lineage.origin

/-- What a slot with this lineage holds. -/
def content (lineage : Lineage) : Content :=
  match lineage.frozen with
  | true => .profile ⟨lineage.registry⟩
  | false => .registry lineage.registry

end Lineage

/-- Every slot holds what its lineage says, and there are no other slots. -/
def Follows (slots : Slots) (lineages : Table Lineage) : Prop :=
  ∀ slot, slots.find? slot = (lineages.find? slot).map Lineage.content

theorem Follows.insert (follows : Follows slots lineages) (target : String) (lineage : Lineage) :
    Follows (slots.insert target lineage.content) (lineages.insert target lineage) := by
  intro slot
  rw [Table.find?_insert, Table.find?_insert]
  split
  · rfl
  · exact follows slot

theorem Follows.erase (follows : Follows slots lineages) (source : String) :
    Follows (slots.erase source) (lineages.erase source) := by
  intro slot
  rw [Table.find?_erase, Table.find?_erase]
  split
  · rfl
  · exact follows slot

theorem Follows.held (follows : Follows slots lineages)
    (found : lineages.find? slot = some lineage) :
    slots.find? slot = some lineage.content := by
  rw [follows slot, found, Option.map_some]

theorem Follows.missed (follows : Follows slots lineages) (absent : lineages.find? slot = none) :
    slots.find? slot = none := by
  rw [follows slot, absent, Option.map_none]

end GraphicsProfile.Session
