import GraphicsProfile.Proofs.Session.Steps
import Mathlib.Data.List.Induction

namespace GraphicsProfile.Session

variable {slots : Slots} {lineages after : Table Lineage} {lineage : Lineage}
  {history done : List Step} {step next : Step} {slot target : String}

/-- The binding that a step sets, if it sets one. -/
def Step.setting? : Step → Option (String × UInt32)
  | .set _ name code => some (name, code)
  | _ => none

/-- The steps account for a lineage: one of them had its origin, and its settings are settings of
theirs in the same order. -/
structure Recorded (steps : List Step) (lineage : Lineage) : Prop where
  created : ∃ target origin, Step.create target origin ∈ steps ∧
    origin.registry? = some lineage.origin
  set : lineage.settings.Sublist (steps.filterMap Step.setting?)

def AllRecorded (steps : List Step) (lineages : Table Lineage) : Prop :=
  ∀ slot lineage, lineages.find? slot = some lineage → Recorded steps lineage

theorem Recorded.later (recorded : Recorded history lineage) (step : Step) :
    Recorded (history ++ [step]) lineage := by
  obtain ⟨⟨target, origin, member, stands⟩, settings⟩ := recorded
  refine ⟨⟨target, origin, List.mem_append_left _ member, stands⟩, ?_⟩
  rw [List.filterMap_append]
  exact settings.trans (List.sublist_append_left _ _)

theorem Inherits.recorded (inherits : Inherits lineages step target lineage)
    (all : AllRecorded history lineages) : Recorded (history ++ [step]) lineage := by
  have kept : ∀ source earlier, lineages.find? source = some earlier →
      Recorded (history ++ [step]) earlier :=
    fun source earlier found => (all source earlier found).later step
  cases inherits with
  | created stands => exact ⟨⟨target, _, List.mem_concat_self, stands⟩, List.nil_sublist _⟩
  | frozen found => exact ⟨(kept _ _ found).created, (kept _ _ found).set⟩
  | derived found => exact ⟨(kept _ _ found).created, (kept _ _ found).set⟩
  | copied found => exact kept _ _ found
  | reloaded found => exact ⟨(kept _ _ found).created, (kept _ _ found).set⟩
  | extended found =>
      refine ⟨(kept _ _ found).created, ?_⟩
      rw [List.filterMap_append]
      exact (all _ _ found).set.append (List.Sublist.refl _)

theorem Writes.recorded (writes : Writes lineages after step target lineage)
    (all : AllRecorded history lineages) : AllRecorded (history ++ [step]) after := by
  intro slot held found
  by_cases here : slot = target
  · rw [here, writes.written] at found
    cases found
    exact writes.inherits.recorded all
  · by_cases freezes : step = .freeze slot target
    · rw [writes.gone slot here freezes] at found
      contradiction
    · rw [writes.kept slot here freezes] at found
      exact (all slot held found).later step

end GraphicsProfile.Session
