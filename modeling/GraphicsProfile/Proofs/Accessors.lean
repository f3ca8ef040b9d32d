import GraphicsProfile.Profile

namespace GraphicsProfile

variable {typeName : String} {shape : Shape} {count : Nat}

/-- The questions about accessor types, as a registry or a profile answers them. -/
structure TypeViews where
  componentCount? : String → Logged (Option Nat)
  componentCountOrZero : String → Logged Nat
  componentCountOrError : String → Logged (Except ProfileError Nat)
  elementSize? : String → ComponentType → Logged (Option Nat)

/-- What each of the questions logs about a type name. -/
def TypeViews.logs (views : TypeViews) (typeName : String) (type : ComponentType) :
    List (List Event) :=
  [(views.componentCount? typeName).log, (views.componentCountOrZero typeName).log,
    (views.componentCountOrError typeName).log, (views.elementSize? typeName type).log]

def Registry.typeViews (registry : Registry) : TypeViews where
  componentCount? := registry.componentCount?
  componentCountOrZero := registry.componentCountOrZero
  componentCountOrError := registry.componentCountOrError
  elementSize? := registry.elementSize?

def Profile.typeViews (profile : Profile) : TypeViews where
  componentCount? := profile.componentCount?
  componentCountOrZero := profile.componentCountOrZero
  componentCountOrError := profile.componentCountOrError
  elementSize? := profile.elementSize?

/-- The log says once that the profile knows no type of the name. -/
def UnknownLogged (profile typeName : String) (log : List Event) : Prop :=
  ∃ event, log = [event] ∧ event.level.label = "TRACE" ∧
    event.message = "unknown accessor type" ∧
    event.fields = [("profile", .text profile), ("type_name", .text typeName)]

/-- All views show the table of counts, and what they log is about the named profile. -/
structure TypeViews.Agree (views : TypeViews) (profile : String) : Prop where
  optional : ∀ typeName, (views.componentCount? typeName).value = componentsOf? typeName
  plain : ∀ typeName, (views.componentCountOrZero typeName).value = (componentsOf? typeName).getD 0
  strict : ∀ typeName count, (views.componentCountOrError typeName).value = .ok count ↔
    componentsOf? typeName = some count
  refused : ∀ typeName error, (views.componentCountOrError typeName).value = .error error ↔
    componentsOf? typeName = none ∧ error = .unknownType typeName
  sized : ∀ typeName type size, (views.elementSize? typeName type).value = some size ↔
    ∃ count, componentsOf? typeName = some count ∧ size = count * type.byteSize
  bounded : ∀ typeName type size, (views.elementSize? typeName type).value = some size → size ≤ 64
  missed : ∀ typeName type, componentsOf? typeName = none →
    ∀ log ∈ views.logs typeName type, UnknownLogged profile typeName log
  found : ∀ typeName type count, componentsOf? typeName = some count →
    ∀ log ∈ views.logs typeName type, log = []

namespace Shape

theorem ofTypeName?_typeName (shape : Shape) : ofTypeName? shape.typeName = some shape := by
  cases shape <;> rfl

theorem ofTypeName?_eq_some_iff :
    ofTypeName? typeName = some shape ↔ typeName = shape.typeName := by
  refine ⟨fun named => ?_, fun same => same ▸ ofTypeName?_typeName shape⟩
  unfold ofTypeName? at named
  split at named <;> cases named <;> rfl

theorem componentsOf?_typeName (shape : Shape) :
    componentsOf? shape.typeName = if shape = mat2 then none else some shape.componentCount := by
  cases shape <;> rfl

theorem one_le_componentCount_iff : 1 ≤ shape.componentCount ↔ shape ≠ mat2 := by
  cases shape <;> decide

theorem componentCount_le (shape : Shape) : shape.componentCount ≤ 16 := by
  cases shape <;> decide

end Shape

theorem ComponentType.byteSize_le (type : ComponentType) : type.byteSize ≤ 4 := by
  cases type <;> decide

/-- Every name in the table of counts is the name of a shape. -/
theorem exists_shape_of_counted (counted : componentsOf? typeName = some count) :
    ∃ shape, typeName = Shape.typeName shape := by
  obtain ⟨front, back, split, _⟩ := List.lookup_eq_some_iff.mp counted
  have listed : (typeName, count) ∈ componentTable := by
    rw [split]
    exact List.mem_append_right front List.mem_cons_self
  have all : componentTable.all (fun entry => (Shape.ofTypeName? entry.1).isSome) = true := rfl
  obtain ⟨shape, named⟩ := Option.isSome_iff_exists.mp (List.all_eq_true.mp all _ listed)
  exact ⟨shape, Shape.ofTypeName?_eq_some_iff.mp named⟩

theorem componentsOf?_eq_some_iff : componentsOf? typeName = some count ↔
    ∃ shape, typeName = Shape.typeName shape ∧ shape ≠ .mat2 ∧ count = shape.componentCount := by
  refine ⟨fun counted => ?_, fun given => ?_⟩
  · obtain ⟨shape, rfl⟩ := exists_shape_of_counted counted
    rw [Shape.componentsOf?_typeName] at counted
    split at counted
    · cases counted
    · rename_i other
      cases counted
      exact ⟨shape, rfl, other, rfl⟩
  · obtain ⟨shape, rfl, other, rfl⟩ := given
    rw [Shape.componentsOf?_typeName, if_neg other]

theorem shaped_uncounted_iff :
    (∃ shape, Shape.ofTypeName? typeName = some shape) ∧ componentsOf? typeName = none ↔
      typeName = uncountedTypeName := by
  refine ⟨fun ⟨⟨shape, named⟩, uncounted⟩ => ?_, fun same => ?_⟩
  · rw [Shape.ofTypeName?_eq_some_iff] at named
    rw [named, Shape.componentsOf?_typeName] at uncounted
    split at uncounted
    · rename_i gap
      rw [named, gap]
      rfl
    · cases uncounted
  · subst same
    exact ⟨⟨.mat2, rfl⟩, rfl⟩

theorem count_le (counted : componentsOf? typeName = some count) : count ≤ 16 := by
  obtain ⟨shape, _, _, rfl⟩ := componentsOf?_eq_some_iff.mp counted
  exact shape.componentCount_le

namespace Registry

variable (registry : Registry)

theorem componentCount?_of_counted (counted : componentsOf? typeName = some count) :
    registry.componentCount? typeName = ⟨some count, []⟩ := by
  rw [componentCount?, counted]
  rfl

theorem componentCount?_of_uncounted (uncounted : componentsOf? typeName = none) :
    registry.componentCount? typeName = ⟨none, [.typeUnknown registry.name typeName]⟩ := by
  rw [componentCount?, uncounted]

theorem componentCount?_value (typeName : String) :
    (registry.componentCount? typeName).value = componentsOf? typeName := by
  cases counted : componentsOf? typeName with
  | none => rw [registry.componentCount?_of_uncounted counted]
  | some count => rw [registry.componentCount?_of_counted counted]

/-- The stronger and the weaker questions log what the optional one logs. -/
theorem log_eq_of_mem_logs {type : ComponentType} {log : List Event}
    (member : log ∈ registry.typeViews.logs typeName type) :
    log = (registry.componentCount? typeName).log :=
  List.eq_of_mem_replicate (n := 4) member

theorem elementSize?_eq_some_iff {type : ComponentType} {size : Nat} :
    (registry.elementSize? typeName type).value = some size ↔
      ∃ count, componentsOf? typeName = some count ∧ size = count * type.byteSize := by
  change (registry.componentCount? typeName).value.map (· * type.byteSize) = some size ↔ _
  rw [registry.componentCount?_value, Option.map_eq_some_iff]
  exact exists_congr fun count => and_congr_right fun _ => eq_comm

theorem componentCountOrError_of_counted (counted : componentsOf? typeName = some count) :
    (registry.componentCountOrError typeName).value = .ok count := by
  rw [componentCountOrError, registry.componentCount?_of_counted counted]
  rfl

theorem componentCountOrError_of_uncounted (uncounted : componentsOf? typeName = none) :
    (registry.componentCountOrError typeName).value = .error (.unknownType typeName) := by
  rw [componentCountOrError, registry.componentCount?_of_uncounted uncounted]
  rfl

theorem typeViews_agree : registry.typeViews.Agree registry.name where
  optional := registry.componentCount?_value
  plain typeName := congrArg (·.getD 0) (registry.componentCount?_value typeName)
  strict typeName count := by
    change (registry.componentCountOrError typeName).value = .ok count ↔ _
    cases counted : componentsOf? typeName with
    | none => simp [registry.componentCountOrError_of_uncounted counted]
    | some held => simp [registry.componentCountOrError_of_counted counted]
  refused typeName error := by
    change (registry.componentCountOrError typeName).value = .error error ↔ _
    cases counted : componentsOf? typeName with
    | none => simp [registry.componentCountOrError_of_uncounted counted, eq_comm]
    | some held => simp [registry.componentCountOrError_of_counted counted]
  sized _ _ _ := registry.elementSize?_eq_some_iff
  bounded typeName type size found := by
    obtain ⟨count, counted, rfl⟩ := registry.elementSize?_eq_some_iff.mp found
    exact Nat.mul_le_mul (count_le counted) type.byteSize_le
  missed typeName type uncounted log member := by
    rw [registry.log_eq_of_mem_logs member, registry.componentCount?_of_uncounted uncounted]
    exact ⟨_, rfl, rfl, rfl, rfl⟩
  found typeName type count counted log member := by
    rw [registry.log_eq_of_mem_logs member, registry.componentCount?_of_counted counted]

end Registry

/-- A string names a shape if and only if it is the name of that shape, and it has a count if and
only if it names a shape other than the two by two matrix, whose name alone has a shape and no
count. Every registry and every profile answers for accessor types out of the table of counts,
whatever its name and its bindings are, and logs a miss once and nothing else. -/
theorem type_names_agree :
    (∀ typeName shape, Shape.ofTypeName? typeName = some shape ↔ typeName = shape.typeName) ∧
    (∀ typeName count, componentsOf? typeName = some count ↔
      ∃ shape, typeName = Shape.typeName shape ∧ shape ≠ .mat2 ∧ count = shape.componentCount) ∧
    (∀ shape, 1 ≤ Shape.componentCount shape ↔ shape ≠ .mat2) ∧
    (∀ typeName, (∃ shape, Shape.ofTypeName? typeName = some shape) ∧
      componentsOf? typeName = none ↔ typeName = uncountedTypeName) ∧
    (∀ registry : Registry, registry.typeViews.Agree registry.name) ∧
    ∀ profile : Profile, profile.typeViews.Agree profile.name :=
  ⟨fun _ _ => Shape.ofTypeName?_eq_some_iff, fun _ _ => componentsOf?_eq_some_iff,
    fun _ => Shape.one_le_componentCount_iff, fun _ => shaped_uncounted_iff,
    Registry.typeViews_agree, fun profile => profile.frozen.typeViews_agree⟩

end GraphicsProfile
