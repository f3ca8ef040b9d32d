import GraphicsProfile.Proofs.Document.RoundTrip
import GraphicsProfile.Registry.Access
import Mathlib.Tactic.TFAE

namespace GraphicsProfile

open Document Document.Grammar Table

variable {registry left right : Registry} {writes leftWrites rightWrites : List (String × UInt32)}

namespace Registry

theorem eq_of_toDocument (same : left.toDocument = right.toDocument) : left = right := by
  have leftRead := load_toDocument left
  rw [same, load_toDocument right] at leftRead
  exact (Except.ok.inj leftRead).symm

/-- A registry that some run builds, and what is written into it from the first binding on. What
stands in a document is written in the order in which it stands there. -/
inductive Built : Registry → List (String × UInt32) → Prop where
  | named (name : String) : Built (.named name) []
  | preset : Built .preset WebGL.codes
  | read {document name : String} {bindings : List (String × UInt32)} {registry : Registry}
      (gives : Gives document.toList name bindings)
      (accepted : (Registry.load document).value = .ok registry) : Built registry bindings
  | set {registry : Registry} {writes : List (String × UInt32)} (before : Built registry writes)
      (name : String) (code : UInt32) :
      Built (registry.set name code).value (writes ++ [(name, code)])

theorem Built.find? (built : Built registry writes) (name : String) :
    registry.find? name = lastWritten? writes name := by
  induction built with
  | named => rfl
  | preset => exact find?_ofList WebGL.codes
  | read gives accepted =>
      have described := load_eq_ok_iff.mpr ⟨_, _, gives, rfl⟩
      rw [accepted] at described
      rw [Except.ok.inj described, describedRegistry_find?]
  | set before bound code ih =>
      rw [lastWritten?_append_single, ← ih]
      exact find?_bind

/-- Two registries are equal, have the same name and the same last codes, or have the same document:
whatever runs built them, one of these says the others. -/
theorem document_canonical (leftBuilt : Built left leftWrites)
    (rightBuilt : Built right rightWrites) :
    [left = right,
      left.name = right.name ∧ ∀ name, lastWritten? leftWrites name = lastWritten? rightWrites name,
      left.toDocument = right.toDocument].TFAE := by
  tfae_have 1 → 2 := by
    rintro rfl
    refine ⟨rfl, fun name => ?_⟩
    rw [← leftBuilt.find?, rightBuilt.find?]
  tfae_have 2 → 3 := by
    intro given
    obtain ⟨sameName, sameCodes⟩ := given
    have same : left = right := Registry.eq_of_find? sameName fun name => by
      rw [leftBuilt.find?, rightBuilt.find?, sameCodes]
    rw [same]
  tfae_have 3 → 1 := eq_of_toDocument
  tfae_finish

/-- A binding that is set twice and in another order than the other one leaves no trace. -/
theorem document_canonical_overwritten :
    ((((named "p").set "B" 7).value.set "A" 1).value.set "B" 2).value.toDocument =
      (((named "p").set "B" 2).value.set "A" 1).value.toDocument := by
  have overwritten := (((Built.named "p").set "B" 7).set "A" 1).set "B" 2
  have direct := ((Built.named "p").set "B" 2).set "A" 1
  exact ((document_canonical overwritten direct).out 0 2).mp (by decide)

end Registry

end GraphicsProfile
