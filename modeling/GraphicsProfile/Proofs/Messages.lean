import GraphicsProfile.Proofs.Accessors
import GraphicsProfile.Proofs.Text.Quoted
import GraphicsProfile.Proofs.Views

namespace GraphicsProfile

open Text

variable {registry : Registry} {name : String} {error : ProfileError}

/-- Messages that consist of a lead and a quotation, one message for each name. The name can be read
back out of the quotation, every quote in it is escaped, and nothing breaks the message into
lines. -/
structure Identifies (lead : String) (message : String → String) : Prop where
  quoted : ∀ name, ∃ inside, (message name).toList = lead.toList ++ '"' :: (inside ++ ['"']) ∧
    unquote? (String.ofList ('"' :: (inside ++ ['"']))) = some name ∧
    endsEscaping inside = false ∧
    ∀ front back, inside = front ++ '"' :: back → endsEscaping front = true
  distinct : ∀ left right, message left = message right ↔ left = right
  unbroken : ∀ name, ∀ char ∈ (message name).toList, ¬ Breaks char

theorem identifies_quoteWith {hidden : Char → Bool}
    (covered : ∀ char, Breaks char → hidden char = true) (lead : String)
    (harmless : ∀ char ∈ lead.toList, ¬ Breaks char) :
    Identifies lead fun name => lead ++ String.ofList (quoteWith hidden name.toList) where
  quoted name := by
    refine ⟨quotedInside hidden name.toList, ?_, unquote?_quoteWith hidden name,
      endsEscaping_quotedInside hidden name.toList, fun _ _ => escaped_in_quotedInside⟩
    rw [String.toList_append, String.toList_ofList, quoteWith_eq]
  distinct left right := by
    refine ⟨fun same => ?_, fun same => same ▸ rfl⟩
    have quotations := congrArg String.toList same
    rw [String.toList_append, String.toList_append, String.toList_ofList,
      String.toList_ofList] at quotations
    exact quoteWith_inj (List.append_cancel_left quotations)
  unbroken name char member := by
    rw [String.toList_append, String.toList_ofList] at member
    rcases List.mem_append.mp member with member | member
    · exact harmless char member
    · exact not_breaks_of_mem_quoteWith covered member

theorem harmless_of_all {lead : String}
    (all : lead.toList.all (fun char => !decide (Breaks char)) = true) :
    ∀ char ∈ lead.toList, ¬ Breaks char := by
  intro char member
  simpa using List.all_eq_true.mp all char member

theorem isUnprintable_of_breaks {char : Char} (breaks : Breaks char) :
    isUnprintable char = true := by
  rcases breaks with control | control | rfl | rfl
  · simp [isUnprintable, isControl, control]
  · simp [isUnprintable, isControl, control]
  · rfl
  · rfl

theorem error_of_codeOrError (refused : (registry.codeOrError name).value = .error error) :
    error = .missingBinding name := by
  cases found : registry.find? name with
  | none =>
      rw [Registry.codeOrError_of_unbound found] at refused
      cases refused
      rfl
  | some code =>
      rw [Registry.codeOrError_of_bound found] at refused
      cases refused

theorem error_of_componentCountOrError
    (refused : (registry.componentCountOrError name).value = .error error) :
    error = .unknownType name :=
  ((registry.typeViews_agree.refused name error).mp refused).2

/-- The messages of the two errors that carry a name identify the name, and so do those of strict
questions to any registries. It does not matter which characters besides those that break lines are
written as code points. -/
theorem messages_identify_names :
    Identifies "no enum binding registered for "
      (fun name => (ProfileError.missingBinding name).message) ∧
    Identifies "unknown accessor type " (fun name => (ProfileError.unknownType name).message) ∧
    (∀ hidden, (∀ char, Breaks char → hidden char = true) →
      ∀ lead : String, (∀ char ∈ lead.toList, ¬ Breaks char) →
      Identifies lead fun name => lead ++ String.ofList (quoteWith hidden name.toList)) ∧
    (∀ left right : Registry, ∀ name name' error error',
      (left.codeOrError name).value = .error error →
      (right.codeOrError name').value = .error error' →
      (error.message = error'.message ↔ name = name')) ∧
    ∀ left right : Registry, ∀ name name' error error',
      (left.componentCountOrError name).value = .error error →
      (right.componentCountOrError name').value = .error error' →
      (error.message = error'.message ↔ name = name') := by
  have covered : ∀ char, Breaks char → isUnprintable char = true := fun _ => isUnprintable_of_breaks
  have bindings :=
    identifies_quoteWith covered "no enum binding registered for " (harmless_of_all rfl)
  have types := identifies_quoteWith covered "unknown accessor type " (harmless_of_all rfl)
  refine ⟨bindings, types, fun _ covered => identifies_quoteWith covered,
    fun left right name name' error error' refused refused' => ?_,
    fun left right name name' error error' refused refused' => ?_⟩
  · rw [error_of_codeOrError refused, error_of_codeOrError refused']
    exact bindings.distinct name name'
  · rw [error_of_componentCountOrError refused, error_of_componentCountOrError refused']
    exact types.distinct name name'

theorem messages_identify_names_escapes :
    ((∀ char, Breaks char → decide (Breaks char) = true) ∧ (∀ char ∈ "no ".toList, ¬ Breaks char) ∧
      Identifies "no " fun name =>
        "no " ++ String.ofList (quoteWith (fun char => decide (Breaks char)) name.toList)) ∧
    (ProfileError.missingBinding "\x000").message ≠ (ProfileError.missingBinding "\\00").message ∧
    (ProfileError.unknownType "\"\n").message ≠ (ProfileError.unknownType "\"\\n").message := by
  obtain ⟨_, _, quotations, codes, counts⟩ := messages_identify_names
  have covered : ∀ char, Breaks char → decide (Breaks char) = true := fun _ => decide_eq_true
  have harmless : ∀ char ∈ "no ".toList, ¬ Breaks char := harmless_of_all rfl
  refine ⟨⟨covered, harmless, quotations _ covered "no " harmless⟩, fun same => ?_, fun same => ?_⟩
  · have names := (codes .blank .blank "\x000" "\\00" _ _ rfl rfl).mp same
    exact absurd names (by decide)
  · have names := (counts .blank .blank "\"\n" "\"\\n" _ _ rfl rfl).mp same
    exact absurd names (by decide)

end GraphicsProfile
