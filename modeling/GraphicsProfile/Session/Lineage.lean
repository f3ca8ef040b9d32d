import GraphicsProfile.Session

/-!
Where the content of a slot comes from: one origin, and the settings that were applied to it since.
Copies, frozen or not, carry the lineage of what they were made from, and from then on each has its
own.
-/

namespace GraphicsProfile.Session

structure Lineage where
  origin : Registry
  settings : List (String × UInt32)
  frozen : Bool
  deriving DecidableEq

namespace Lineage

/-- The code that a name was set to last, or else the one that the origin has for it. -/
def code? (lineage : Lineage) (name : String) : Option UInt32 :=
  match lineage.settings.reverse.find? (·.1 = name) with
  | some setting => some setting.2
  | none => lineage.origin.find? name

/-- The names that are set or that the origin binds. -/
def binds (lineage : Lineage) (name : String) : Bool :=
  (lineage.code? name).isSome

end Lineage

/-- The registry that an origin stands for, if it stands for one. -/
def Origin.registry? (origin : Origin) : Option Registry :=
  match origin.load.value with
  | .ok registry => some registry
  | .error _ => none

/-- What a step does to the lineages of the slots. It looks at no content. -/
def trace (lineages : Table Lineage) : Step → Table Lineage
  | .create target origin =>
    match origin.registry? with
    | some registry => lineages.insert target ⟨registry, [], false⟩
    | none => lineages
  | .freeze source target =>
    match lineages.find? source with
    | some ⟨origin, settings, false⟩ => (lineages.erase source).insert target ⟨origin, settings, true⟩
    | _ => lineages
  | .toRegistry source target =>
    match lineages.find? source with
    | some ⟨origin, settings, true⟩ => lineages.insert target ⟨origin, settings, false⟩
    | _ => lineages
  | .copy source target =>
    match lineages.find? source with
    | some lineage => lineages.insert target lineage
    | none => lineages
  | .reload source target =>
    match lineages.find? source with
    | some lineage => lineages.insert target { lineage with frozen := false }
    | none => lineages
  | .set slot name code =>
    match lineages.find? slot with
    | some ⟨origin, settings, false⟩ =>
      lineages.insert slot ⟨origin, settings ++ [(name, code)], false⟩
    | _ => lineages
  | .ask _ _ | .compare _ _ => lineages

end GraphicsProfile.Session
