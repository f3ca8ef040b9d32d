import GraphicsProfile.Proofs.Document.RoundTrip
import GraphicsProfile.Proofs.Session.Lineages

namespace GraphicsProfile.Session

variable {slots : Slots} {lineages : Table Lineage} {lineage : Lineage} {step : Step}
  {slot source target : String}

/-- A step that asks something. -/
def Step.reads : Step → Bool
  | .ask _ _ | .compare _ _ => true
  | _ => false

/-- The lineage that a step which does not fail gives to the slot that it writes. -/
inductive Inherits (lineages : Table Lineage) : Step → String → Lineage → Prop where
  | created {target : String} {origin : Origin} {registry : Registry}
      (stands : origin.registry? = some registry) :
      Inherits lineages (.create target origin) target ⟨registry, [], false⟩
  | frozen {source target : String} {origin : Registry} {settings : List (String × UInt32)}
      (found : lineages.find? source = some ⟨origin, settings, false⟩) :
      Inherits lineages (.freeze source target) target ⟨origin, settings, true⟩
  | derived {source target : String} {origin : Registry} {settings : List (String × UInt32)}
      (found : lineages.find? source = some ⟨origin, settings, true⟩) :
      Inherits lineages (.toRegistry source target) target ⟨origin, settings, false⟩
  | copied {source target : String} {lineage : Lineage}
      (found : lineages.find? source = some lineage) :
      Inherits lineages (.copy source target) target lineage
  | reloaded {source target : String} {lineage : Lineage}
      (found : lineages.find? source = some lineage) :
      Inherits lineages (.reload source target) target { lineage with frozen := false }
  | extended {slot name : String} {code : UInt32} {origin : Registry}
      {settings : List (String × UInt32)}
      (found : lineages.find? slot = some ⟨origin, settings, false⟩) :
      Inherits lineages (.set slot name code) slot ⟨origin, settings ++ [(name, code)], false⟩

/-- A step writes a lineage into one slot. The slot that it freezes is gone, and any other slot
keeps its lineage. -/
structure Writes (before after : Table Lineage) (step : Step) (target : String)
    (lineage : Lineage) : Prop where
  inherits : Inherits before step target lineage
  written : after.find? target = some lineage
  gone : ∀ source, source ≠ target → step = .freeze source target → after.find? source = none
  kept : ∀ other, other ≠ target → step ≠ .freeze other target →
    after.find? other = before.find? other

end GraphicsProfile.Session
