import GraphicsProfile.Event
import GraphicsProfile.Registry

namespace GraphicsProfile

/-- The binding that an event reports, if it reports one. -/
def Event.binding? : Event → Option (String × UInt32)
  | bindingSet _ name code => some (name, code)
  | bindingOverwritten _ name _ new => some (name, new)
  | _ => none

/-- The bindings that result when what the events report is bound in their order. -/
def Table.replay (bindings : Table UInt32) (log : List Event) : Table UInt32 :=
  (log.filterMap Event.binding?).foldl (fun table binding => table.insert binding.1 binding.2)
    bindings

end GraphicsProfile
