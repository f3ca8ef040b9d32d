import GraphicsProfile.Proofs.Registries
import GraphicsProfile.Registry.Access
import GraphicsProfile.Registry.Replay

namespace GraphicsProfile

open Table

variable {registry : Registry} {name : String} {code old : UInt32} {held : Option UInt32}

/-- The event tells of a setting in the named profile, given the code that the name had then. It is
a warning that tells both codes if they differ, and else it tells the new code alone. -/
structure Event.Journals (event : Event) (profile name : String) (code : UInt32)
    (held : Option UInt32) : Prop where
  carries : event.profile = profile
  warns : event.level.label = "WARN" ∧ event.message = "enum binding overwritten" ↔
    ∃ old, held = some old ∧ old ≠ code
  overwritten : ∀ old, held = some old → old ≠ code → old.toNat ≠ code.toNat ∧
    event.fields = [("profile", .text profile), ("name", .text name),
      ("old", .number old.toNat), ("new", .number code.toNat)]
  debugs : event.level.label = "DEBUG" ∧ event.message = "enum binding set" ↔
    held = none ∨ held = some code
  bound : held = none ∨ held = some code → event.fields = [("profile", .text profile),
    ("name", .text name), ("code", .number code.toNat)]

namespace Registry

/-- Sets bindings one after the other, and gathers what is logged. -/
def setAll (registry : Registry) : List (String × UInt32) → Logged Registry
  | [] => .silent registry
  | (name, code) :: later =>
      let changed := registry.set name code
      let behind := changed.value.setAll later
      ⟨behind.value, changed.log ++ behind.log⟩

theorem bindingEvent_of_kept (kept : held = none ∨ held = some code) :
    registry.bindingEvent name code held = .bindingSet registry.name name code := by
  rcases kept with rfl | rfl
  · rfl
  · rw [bindingEvent, if_pos rfl]

theorem bindingEvent_of_changed (changed : old ≠ code) :
    registry.bindingEvent name code (some old) =
      .bindingOverwritten registry.name name old code := by
  rw [bindingEvent, if_neg changed]

theorem kept_or_changed (held : Option UInt32) (code : UInt32) :
    (held = none ∨ held = some code) ∨ ∃ old, held = some old ∧ old ≠ code := by
  cases held with
  | none => exact .inl (.inl rfl)
  | some old =>
      by_cases same : old = code
      · exact .inl (.inr (congrArg some same))
      · exact .inr ⟨old, rfl, same⟩

theorem not_changed_of_kept (kept : held = none ∨ held = some code) :
    ¬ ∃ old, held = some old ∧ old ≠ code := by
  rintro ⟨old, rfl, changed⟩
  rcases kept with none | same
  · contradiction
  · exact changed (Option.some.inj same)

theorem debug_ne_warn : Level.debug.label ≠ Level.warn.label := by decide

theorem bindingEvent_journals (registry : Registry) (name : String) (code : UInt32)
    (held : Option UInt32) :
    (registry.bindingEvent name code held).Journals registry.name name code held := by
  rcases kept_or_changed held code with kept | changed
  · have unchanged := not_changed_of_kept kept
    rw [bindingEvent_of_kept kept]
    exact {
      carries := rfl
      warns := iff_of_false (fun warning => absurd warning.1 debug_ne_warn) unchanged
      overwritten := fun old found different => absurd ⟨old, found, different⟩ unchanged
      debugs := iff_of_true ⟨rfl, rfl⟩ kept
      bound := fun _ => rfl }
  · have notKept : ¬ (held = none ∨ held = some code) := fun kept =>
      not_changed_of_kept kept changed
    obtain ⟨old, rfl, different⟩ := changed
    rw [bindingEvent_of_changed different]
    exact {
      carries := rfl
      warns := iff_of_true ⟨rfl, rfl⟩ ⟨old, rfl, different⟩
      overwritten := fun other found _ => by
        cases found
        exact ⟨fun same => different (UInt32.toNat_inj.mp same), rfl⟩
      debugs := iff_of_false (fun debug => absurd debug.1.symm debug_ne_warn) notKept
      bound := fun kept => absurd kept notKept }

theorem setAll_cons (registry : Registry) (name : String) (code : UInt32)
    (later : List (String × UInt32)) :
    registry.setAll ((name, code) :: later) =
      ⟨((registry.bind name code).setAll later).value,
        registry.bindingEvent name code (registry.find? name) ::
          ((registry.bind name code).setAll later).log⟩ := rfl

theorem setAll_value (registry : Registry) (settings : List (String × UInt32)) :
    (registry.setAll settings).value =
      settings.foldl (fun registry setting => registry.bind setting.1 setting.2) registry := by
  induction settings generalizing registry with
  | nil => rfl
  | cons setting later ih => exact ih (registry.bind setting.1 setting.2)

theorem setAll_name (registry : Registry) (settings : List (String × UInt32)) :
    (registry.setAll settings).value.name = registry.name := by
  rw [setAll_value, foldl_bind]

/-- What has been set last stands, and else what the registry had. -/
theorem setAll_find? (registry : Registry) (settings : List (String × UInt32)) (name : String) :
    (registry.setAll settings).value.find? name =
      (lastWritten? settings name).or (registry.find? name) := by
  rw [setAll_value, foldl_bind]
  exact find?_foldl_insert settings

theorem setAll_append_value (registry : Registry) (first second : List (String × UInt32)) :
    (registry.setAll (first ++ second)).value =
      ((registry.setAll first).value.setAll second).value := by
  simp only [setAll_value, List.foldl_append]

theorem setAll_append_log (registry : Registry) (first second : List (String × UInt32)) :
    (registry.setAll (first ++ second)).log =
      (registry.setAll first).log ++ ((registry.setAll first).value.setAll second).log := by
  induction first generalizing registry with
  | nil => rfl
  | cons setting first ih =>
      obtain ⟨name, code⟩ := setting
      rw [List.cons_append, setAll_cons, setAll_cons, ih, List.cons_append]

theorem setAll_log_length (registry : Registry) (settings : List (String × UInt32)) :
    (registry.setAll settings).log.length = settings.length := by
  induction settings generalizing registry with
  | nil => rfl
  | cons setting later ih =>
      obtain ⟨name, code⟩ := setting
      rw [setAll_cons, List.length_cons, List.length_cons, ih]

/-- The event of a setting stands in the log where the setting stands among the settings. -/
theorem setAll_log_getElem? (registry : Registry) (done later : List (String × UInt32))
    (name : String) (code : UInt32) :
    (registry.setAll (done ++ (name, code) :: later)).log[done.length]? =
      some ((registry.setAll done).value.bindingEvent name code
        ((registry.setAll done).value.find? name)) := by
  have before := registry.setAll_log_length done
  rw [setAll_append_log, setAll_cons, List.getElem?_append_right (Nat.le_of_eq before), before,
    Nat.sub_self]
  rfl

theorem replay_cons_bindingEvent (bindings : Table UInt32) (log : List Event) :
    bindings.replay (registry.bindingEvent name code held :: log) =
      (bindings.insert name code).replay log := by
  rcases kept_or_changed held code with kept | ⟨old, rfl, changed⟩
  · rw [bindingEvent_of_kept kept]
    rfl
  · rw [bindingEvent_of_changed changed]
    rfl

/-- Replaying one event does what its setting did, so replaying the log does what all did. -/
theorem replay_setAll (registry : Registry) (settings : List (String × UInt32)) :
    registry.bindings.replay (registry.setAll settings).log =
      (registry.setAll settings).value.bindings := by
  induction settings generalizing registry with
  | nil => rfl
  | cons setting later ih =>
      obtain ⟨name, code⟩ := setting
      rw [setAll_cons, replay_cons_bindingEvent]
      exact ih (registry.bind name code)

/-- A registry grows by one binding if the name was unbound, and else not at all. -/
theorem size_setAll_concat (registry : Registry) (done : List (String × UInt32)) (name : String)
    (code : UInt32) :
    (registry.setAll (done ++ [(name, code)])).value.size = (registry.setAll done).value.size +
      if ((registry.setAll done).value.find? name).isSome then 0 else 1 := by
  rw [setAll_append_value]
  exact size_insert _ _ _

/-- Every setting is logged by one event, in the order of the settings and under the name of the
registry. The event tells whether the name had another code at that moment, where the code at that
moment is the one of the last setting before, or else the one of the registry at the start. The
registry grows at the plain events of unbound names only, and replaying the log brings back the
bindings at the end. -/
theorem log_journals_settings (registry : Registry) (settings : List (String × UInt32)) :
    (registry.setAll settings).log.length = settings.length ∧
    (∀ done name code later, settings = done ++ (name, code) :: later → ∃ event held,
      (registry.setAll settings).log[done.length]? = some event ∧
      held = (registry.setAll done).value.find? name ∧
      held = (lastWritten? done name).or (registry.find? name) ∧
      event.Journals registry.name name code held ∧
      ((registry.setAll (done ++ [(name, code)])).value.size =
          (registry.setAll done).value.size + 1 ↔
        event.level.label = "DEBUG" ∧ held = none) ∧
      (¬ (event.level.label = "DEBUG" ∧ held = none) →
        (registry.setAll (done ++ [(name, code)])).value.size =
          (registry.setAll done).value.size)) ∧
    registry.bindings.replay (registry.setAll settings).log =
      (registry.setAll settings).value.bindings := by
  refine ⟨registry.setAll_log_length settings, ?_, registry.replay_setAll settings⟩
  rintro done name code later rfl
  have journals := bindingEvent_journals (registry.setAll done).value name code
    ((registry.setAll done).value.find? name)
  have grown := registry.size_setAll_concat done name code
  rw [setAll_name] at journals
  refine ⟨_, _, registry.setAll_log_getElem? done later name code, rfl,
    registry.setAll_find? done name, journals, ?_, ?_⟩
  · cases found : (registry.setAll done).value.find? name with
    | none => simp [grown, found, bindingEvent, Event.level, Level.label]
    | some old => simp [grown, found]
  · cases found : (registry.setAll done).value.find? name with
    | none => simp [bindingEvent, Event.level, Level.label]
    | some old => simp [grown, found]

/-- A code that is repeated, changed and changed back. -/
theorem log_journals_settings_changed_back :
    let settings : List (String × UInt32) := [("A", 1), ("A", 1), ("A", 0), ("A", 1)]
    ∃ event, ((named "p").setAll settings).log[3]? = some event ∧ event.level.label = "WARN" ∧
      event.fields = [("profile", .text "p"), ("name", .text "A"), ("old", .number 0),
        ("new", .number 1)] := by
  intro settings
  obtain ⟨_, journals, _⟩ := log_journals_settings (named "p") settings
  obtain ⟨event, held, logged, _, last, told, _⟩ := journals (settings.take 3) "A" 1 [] rfl
  have changed : held = some 0 := last.trans (by decide)
  exact ⟨event, logged, (told.warns.mpr ⟨0, changed, by decide⟩).1,
    (told.overwritten 0 changed (by decide)).2⟩

end Registry

end GraphicsProfile
