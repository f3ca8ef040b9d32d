import GraphicsProfile.Proofs.Registries
import GraphicsProfile.Session
import Mathlib.Tactic.TFAE

namespace GraphicsProfile

variable {registry : Registry} {name : String} {code : UInt32}

/-- The questions about bindings, as a registry or a profile answers them. -/
structure BindingViews where
  code? : String → Logged (Option UInt32)
  codeOrError : String → Logged (Except ProfileError UInt32)
  codeOrZero : String → Logged UInt32
  contains : String → Bool
  names : List String
  size : Nat
  isEmpty : Bool
  componentTypeCode : ComponentType → Logged UInt32

def Registry.bindingViews (registry : Registry) : BindingViews where
  code? := registry.code?
  codeOrError := registry.codeOrError
  codeOrZero := registry.codeOrZero
  contains := registry.contains
  names := registry.names
  size := registry.size
  isEmpty := registry.isEmpty
  componentTypeCode := registry.componentTypeCode

def Profile.bindingViews (profile : Profile) : BindingViews where
  code? := profile.code?
  codeOrError := profile.codeOrError
  codeOrZero := profile.codeOrZero
  contains := profile.contains
  names := profile.names
  size := profile.size
  isEmpty := profile.isEmpty
  componentTypeCode := profile.componentTypeCode

/-- The log says once that the name is not bound in the profile. -/
def MissLogged (profile name : String) (log : List Event) : Prop :=
  ∃ event, log = [event] ∧ event.level.label = "TRACE" ∧ event.message = "enum binding miss" ∧
    event.fields = [("profile", .text profile), ("name", .text name)]

/-- All views show the same bindings, those of the named profile. -/
structure BindingViews.Agree (views : BindingViews) (profile : String) : Prop where
  bound : ∀ name code, [(views.code? name).value = some code,
    (views.codeOrError name).value = .ok code,
    views.contains name = true ∧ (views.codeOrZero name).value = code].TFAE
  unbound : ∀ name, [(views.code? name).value = none,
    (views.codeOrError name).value = .error (.missingBinding name),
    views.contains name = false].TFAE
  zero : ∀ name, views.contains name = false → (views.codeOrZero name).value = 0
  zeroHidden : ∀ name other, (views.code? name).value = some 0 → views.contains other = false →
    (views.codeOrZero name).value = (views.codeOrZero other).value ∧
    (views.code? name).value ≠ (views.code? other).value ∧
    (views.codeOrError name).value ≠ (views.codeOrError other).value ∧
    views.contains name ≠ views.contains other
  listed : ∀ name, name ∈ views.names ↔ views.contains name = true
  listedOnce : views.names.Nodup
  counted : views.size = views.names.length
  empty : views.isEmpty = true ↔ ∀ name, views.contains name = false
  componentType : ∀ type, views.componentTypeCode type = views.codeOrZero type.enumName
  missed : ∀ name, views.contains name = false →
    MissLogged profile name (views.codeOrZero name).log ∧
    MissLogged profile name (views.code? name).log ∧
    MissLogged profile name (views.codeOrError name).log ∧
    ∀ type, type.enumName = name → MissLogged profile name (views.componentTypeCode type).log
  found : ∀ name, views.contains name = true →
    (views.codeOrZero name).log = [] ∧ (views.code? name).log = [] ∧
    (views.codeOrError name).log = [] ∧
    ∀ type, type.enumName = name → (views.componentTypeCode type).log = []

namespace Registry

theorem contains_eq_isSome (registry : Registry) (name : String) :
    registry.contains name = (registry.find? name).isSome :=
  Table.contains_eq_isSome registry.bindings name

theorem find?_of_contains (bound : registry.contains name = true) :
    ∃ code, registry.find? name = some code := by
  rw [contains_eq_isSome] at bound
  exact Option.isSome_iff_exists.mp bound

theorem find?_of_not_contains (unbound : registry.contains name = false) :
    registry.find? name = none := by
  rw [contains_eq_isSome] at unbound
  exact Option.not_isSome_iff_eq_none.mp (Bool.eq_false_iff.mp unbound)

section Bound

variable (bound : registry.find? name = some code)

include bound

theorem contains_of_bound : registry.contains name = true := by
  rw [contains_eq_isSome, bound, Option.isSome_some]

theorem code?_of_bound : registry.code? name = ⟨some code, []⟩ := by
  rw [code?, bound]
  rfl

theorem codeOrZero_of_bound : registry.codeOrZero name = ⟨code, []⟩ := by
  rw [codeOrZero, code?_of_bound bound]
  rfl

theorem codeOrError_of_bound : registry.codeOrError name = ⟨.ok code, []⟩ := by
  rw [codeOrError, code?_of_bound bound]
  rfl

end Bound

section Unbound

variable (unbound : registry.find? name = none)

include unbound

theorem contains_of_unbound : registry.contains name = false := by
  rw [contains_eq_isSome, unbound, Option.isSome_none]

theorem code?_of_unbound :
    registry.code? name = ⟨none, [.bindingMissed registry.name name]⟩ := by
  rw [code?, unbound]

theorem codeOrZero_of_unbound :
    registry.codeOrZero name = ⟨0, [.bindingMissed registry.name name]⟩ := by
  rw [codeOrZero, code?_of_unbound unbound]
  rfl

theorem codeOrError_of_unbound : registry.codeOrError name =
    ⟨.error (.missingBinding name), [.bindingMissed registry.name name]⟩ := by
  rw [codeOrError, code?_of_unbound unbound]
  rfl

end Unbound

theorem missLogged (profile name : String) :
    MissLogged profile name [.bindingMissed profile name] :=
  ⟨_, rfl, rfl, rfl, rfl⟩

theorem bound_views (registry : Registry) (name : String) (code : UInt32) :
    [(registry.code? name).value = some code, (registry.codeOrError name).value = .ok code,
      registry.contains name = true ∧ (registry.codeOrZero name).value = code].TFAE := by
  cases found : registry.find? name with
  | none =>
      simp [code?_of_unbound found, codeOrError_of_unbound found, contains_of_unbound found]
  | some held =>
      simp [code?_of_bound found, codeOrError_of_bound found, contains_of_bound found,
        codeOrZero_of_bound found]

theorem unbound_views (registry : Registry) (name : String) :
    [(registry.code? name).value = none,
      (registry.codeOrError name).value = .error (.missingBinding name),
      registry.contains name = false].TFAE := by
  cases found : registry.find? name with
  | none =>
      simp [code?_of_unbound found, codeOrError_of_unbound found, contains_of_unbound found]
  | some held =>
      simp [code?_of_bound found, codeOrError_of_bound found, contains_of_bound found]

/-- A name that is bound to zero and an unbound one have the same plain code and no other answer in
common. -/
theorem zero_hidden (registry : Registry) {name other : String}
    (held : (registry.code? name).value = some 0) (absent : registry.contains other = false) :
    (registry.codeOrZero name).value = (registry.codeOrZero other).value ∧
    (registry.code? name).value ≠ (registry.code? other).value ∧
    (registry.codeOrError name).value ≠ (registry.codeOrError other).value ∧
    registry.contains name ≠ registry.contains other := by
  have views := registry.bound_views name 0
  obtain ⟨present, zero⟩ := (views.out 0 2).mp held
  have strict := (views.out 0 1).mp held
  have unbound := find?_of_not_contains absent
  rw [held, zero, strict, present, absent, codeOrZero_of_unbound unbound,
    code?_of_unbound unbound, codeOrError_of_unbound unbound]
  simp

theorem bindingViews_agree (registry : Registry) :
    registry.bindingViews.Agree registry.name where
  bound := registry.bound_views
  unbound := registry.unbound_views
  zero name absent := congrArg Logged.value (codeOrZero_of_unbound (find?_of_not_contains absent))
  zeroHidden _ _ := registry.zero_hidden
  listed name := by
    change name ∈ registry.bindings.names ↔ registry.contains name = true
    rw [contains_eq_isSome]
    exact Table.mem_names_iff
  listedOnce := registry.bindings.names_nodup
  counted := registry.bindings.size_eq_length_names
  empty := registry.bindings.isEmpty_iff
  componentType _ := rfl
  missed name absent := by
    have unbound := find?_of_not_contains absent
    have logged := missLogged registry.name name
    have plain := congrArg Logged.log (codeOrZero_of_unbound unbound)
    refine ⟨plain ▸ logged, ?_, ?_, ?_⟩
    · exact congrArg Logged.log (code?_of_unbound unbound) ▸ logged
    · exact congrArg Logged.log (codeOrError_of_unbound unbound) ▸ logged
    · rintro type rfl
      exact plain ▸ logged
  found name present := by
    obtain ⟨code, bound⟩ := find?_of_contains present
    have plain := congrArg Logged.log (codeOrZero_of_bound bound)
    refine ⟨plain, ?_, ?_, ?_⟩
    · exact congrArg Logged.log (code?_of_bound bound)
    · exact congrArg Logged.log (codeOrError_of_bound bound)
    · rintro type rfl
      exact plain

end Registry

/-- In every registry and in the profile that it is frozen to, the views of the bindings agree. That
a name is contained or not is told in silence. -/
theorem binding_views_agree (registry : Registry) :
    registry.bindingViews.Agree registry.name ∧
    registry.freeze.value.bindingViews.Agree registry.name ∧
    ∀ name, ∀ content ∈ [Session.Content.registry registry, .profile registry.freeze.value],
      content.answer (.contains name) = ⟨.ok (.truth (registry.contains name)), []⟩ := by
  refine ⟨registry.bindingViews_agree, registry.bindingViews_agree, fun name content member => ?_⟩
  rcases List.mem_cons.mp member with rfl | member
  · rfl
  · cases List.mem_singleton.mp member
    rfl

end GraphicsProfile
