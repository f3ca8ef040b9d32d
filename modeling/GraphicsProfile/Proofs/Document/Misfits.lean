import GraphicsProfile.Proofs.Document.Fronts

namespace GraphicsProfile.Document

open Grammar Reader Text

variable {α : Type} {text value middle bracket rest : List Char} {place : Place} {kind : String}

/-- What is found where a misfit stands is called by the misfit's name, and it is found there
whatever stands behind. -/
theorem Grammar.Misfit.exists_found (misfit : Misfit place text kind bracket rest) :
    ∃ shown found, text = shown ++ (bracket ++ rest) ∧ found.description = kind ∧
      ∀ other, Misfit place (shown ++ (bracket ++ other)) kind bracket other ∧
        foundValue (shown ++ (bracket ++ other)) = .ok (found, bracket ++ other) := by
  cases misfit with
  | null => exact ⟨['n', 'u', 'l', 'l'], .null, rfl, rfl, fun _ => ⟨.null, rfl⟩⟩
  | yes => exact ⟨['t', 'r', 'u', 'e'], .boolean true, rfl, rfl, fun _ => ⟨.yes, rfl⟩⟩
  | no => exact ⟨['f', 'a', 'l', 's', 'e'], .boolean false, rfl, rfl, fun _ => ⟨.no, rfl⟩⟩
  | @literal _ _ spelled elsewhere form =>
      obtain ⟨front, rfl, framed⟩ := form.exists_front
      refine ⟨'"' :: front, .text spelled, rfl, rfl, fun other => ⟨?_, ?_⟩⟩
      · exact .literal elsewhere (framed other)
      · have read := literal_eq_ok_iff.mpr (framed other)
        exact map_eq_ok_iff.mpr ⟨spelled, read, rfl⟩
  | list elsewhere => exact ⟨[], .sequence, rfl, rfl, fun _ => ⟨.list elsewhere, rfl⟩⟩
  | object elsewhere => exact ⟨[], .map, rfl, rfl, fun _ => ⟨.object elsewhere, rfl⟩⟩

theorem Grammar.Misfit.opens (misfit : Misfit place text kind bracket rest) : Opens text := by
  cases misfit <;> exact ⟨_, _, .none, rfl, by decide⟩

section Readers

/-! The reader of a place leaves a misfit to the same refusal. -/

theorem nameValue_of_misfit (misfit : Misfit .name text kind bracket rest) :
    nameValue text = mismatch .name text := by
  cases misfit with
  | literal elsewhere => exact absurd rfl elsewhere
  | _ => rfl

theorem bindingsValue_of_misfit (misfit : Misfit .bindings text kind bracket rest) :
    bindingsValue text = mismatch .bindings text := by
  cases misfit with
  | object elsewhere => simp at elsewhere
  | _ => rfl

theorem codeValue_of_misfit (misfit : Misfit .code text kind bracket rest) :
    codeValue text = mismatch .code text := by
  cases misfit <;> rfl

theorem documentValue_of_misfit (misfit : Misfit .document text kind bracket rest) :
    documentValue text = mismatch .document text := by
  cases misfit with
  | list elsewhere => exact absurd rfl elsewhere
  | object elsewhere => simp at elsewhere
  | _ => rfl

end Readers

theorem mismatch_of_found {found : Found} (read : foundValue text = .ok (found, rest)) :
    (mismatch place : Reader α) text = .error ((Cause.wrongType found place).before rest) :=
  bind_eq_of_ok read

theorem codeValue_of_blanks (blanks : Blanks text middle) : codeValue text = codeValue middle := by
  simp only [codeValue, blanks.skipBlanks_eq]

/-- Behind a front of a document, a misfit is what the document is refused for. -/
theorem wholeDocument_of_misfit (front : Front text place value) :
    ∃ used, text = used ++ value ∧ ∀ {other kind bracket rest found},
      Misfit place other kind bracket rest → foundValue other = .ok (found, bracket ++ rest) →
        wholeDocument (used ++ other) =
          .error ((Cause.wrongType found place).before (bracket ++ rest)) := by
  cases place with
  | document =>
      obtain ⟨before⟩ := front
      obtain ⟨used, rfl, framed⟩ := before.exists_front
      refine ⟨used, rfl, fun {other _ _ _ _} misfit read => ?_⟩
      rw [wholeDocument_of_blanks (framed other)]
      exact bind_eq_of_error ((documentValue_of_misfit misfit).trans (mismatch_of_found read))
  | name =>
      obtain ⟨used, onward, rfl, _, passes⟩ := nameValue_of_front front
      refine ⟨used, rfl, fun {other _ _ _ _} misfit read => ?_⟩
      rw [passes other misfit.opens]
      exact bind_eq_of_error ((nameValue_of_misfit misfit).trans (mismatch_of_found read))
  | bindings =>
      obtain ⟨used, onward, rfl, _, passes⟩ := bindingsValue_of_front front
      refine ⟨used, rfl, fun {other _ _ _ _} misfit read => ?_⟩
      rw [passes other misfit.opens]
      exact bind_eq_of_error ((bindingsValue_of_misfit misfit).trans (mismatch_of_found read))
  | code =>
      cases front with
      | code front leading key space =>
          obtain ⟨gap, rfl, framed⟩ := space.exists_front
          obtain ⟨used, onward, rfl, _, passes⟩ := codeValue_of_front front leading key
          refine ⟨used ++ gap, by simp, fun {other _ _ _ _} misfit read => ?_⟩
          rw [List.append_assoc, passes, bind_eq_of_error]
          rw [codeValue_of_blanks (framed other), codeValue_of_misfit misfit,
            mismatch_of_found read]

theorem load_of_stopped {used left : List Char} {cause : Cause}
    (stopped : wholeDocument (used ++ left) = .error (cause.before left)) :
    Registry.load (String.ofList (used ++ left)) =
      ⟨.error (.badDocument ⟨cause, .after (bytes used)⟩), []⟩ := by
  have read := readRegistry_eq_error_iff.mpr stopped
  rw [← String.toList_ofList (l := used ++ left)] at read
  rw [load_of_fault read, String.toList_ofList, within_before rfl]

/-- A value of a kind that its place does not take is refused where it shows the kind. The error
names the kind and what the place takes, and it is the same whatever stands behind the value or
behind its opening bracket. -/
theorem load_refuses_misfit {document : String} (front : Front document.toList place value)
    (misfit : Misfit place value kind bracket rest) :
    ∃ used error, document.toList = used ++ (bracket ++ rest) ∧
      error.category.label = "data" ∧ error.position = .after (bytes used) ∧
      error.message = "invalid type: " ++ kind ++ ", expected " ++ place.expectation ++
        " at line " ++ toString error.position.line ++
        " column " ++ toString error.position.column ∧
      Registry.load document = ⟨.error (.badDocument error), []⟩ ∧
      ∀ other, Registry.load (String.ofList (used ++ (bracket ++ other))) =
        ⟨.error (.badDocument error), []⟩ := by
  obtain ⟨outer, split, stops⟩ := wholeDocument_of_misfit front
  obtain ⟨shown, found, rfl, rfl, continued⟩ := misfit.exists_found
  rw [← List.append_assoc] at split
  let error : DocumentError := ⟨.wrongType found place, .after (bytes (outer ++ shown))⟩
  have refused : ∀ other, Registry.load (String.ofList (outer ++ shown ++ (bracket ++ other))) =
      ⟨.error (.badDocument error), []⟩ := by
    intro other
    obtain ⟨again, read⟩ := continued other
    have stopped := stops again read
    rw [← List.append_assoc] at stopped
    exact load_of_stopped stopped
  refine ⟨outer ++ shown, error, split, rfl, rfl, rfl, ?_, refused⟩
  rw [← refused rest, ← split, String.ofList_toList]

theorem load_refuses_misfit_kinds :
    RefusedWith "null" "invalid type: null, expected struct ProfileRegistry at line 1 column 4" ∧
    RefusedWith "[true]" "invalid type: boolean `true`, expected a string at line 1 column 5" ∧
    RefusedWith "[\x7b\x7d]" "invalid type: map, expected a string at line 1 column 1" ∧
    RefusedWith "[\"\",\"\\\"\\n\"]"
      "invalid type: string \"\\\"\\n\", expected a map at line 1 column 10" ∧
    RefusedWith "[\"\",[]]" "invalid type: sequence, expected a map at line 1 column 4" ∧
    RefusedWith "[\"\",\x7b\"\":null\x7d]"
      "invalid type: null, expected u32 at line 1 column 12" := by
  have empty : ∀ rest, Literal ('"' :: rest) "".toList rest := fun _ => .close
  have whole : Front "null".toList .document "null".toList := .document .none
  have unnamed : ∀ rest, Front ('[' :: rest) .name rest := fun _ => .nameElement .none .none
  have unbound : ∀ rest, Front ('[' :: '"' :: '"' :: ',' :: rest) .bindings rest := fun _ =>
    .bindingsElement .none .none (empty _) .none .none
  have code : Front "[\"\",\x7b\"\":null\x7d]".toList .code "null\x7d]".toList :=
    .code (unbound _) .none (.quoted .none (empty _) .none) .none
  have literal : Literal "\\\"\\n\"]".toList "\"\n".toList [']'] :=
    .piece (.short (by decide)) (.piece (.short (by decide)) .close)
  have refused : ∀ (document : String) {kind : String} {place : Place}
      {value bracket rest : List Char} (used : List Char), Front document.toList place value →
        Misfit place value kind bracket rest → document.toList = used ++ (bracket ++ rest) →
          RefusedWith document ("invalid type: " ++ kind ++ ", expected " ++ place.expectation ++
            " at line " ++ toString (Position.after (bytes used)).line ++
            " column " ++ toString (Position.after (bytes used)).column) := by
    intro document kind place value bracket rest used front misfit split
    obtain ⟨taken, error, split', _, position, message, refused, _⟩ :=
      load_refuses_misfit front misfit
    have same : taken = used := List.append_cancel_right (split'.symm.trans split)
    rw [position, same] at message
    exact ⟨error, refused, message⟩
  exact ⟨refused "null" "null".toList whole .null rfl,
    refused "[true]" "[true".toList (unnamed _) .yes rfl,
    refused "[\x7b\x7d]" "[".toList (unnamed _) (.object (.inl rfl)) rfl,
    refused "[\"\",\"\\\"\\n\"]" "[\"\",\"\\\"\\n\"".toList (unbound _)
      (.literal (by decide) literal) rfl,
    refused "[\"\",[]]" "[\"\",".toList (unbound _) (.list (by decide)) rfl,
    refused "[\"\",\x7b\"\":null\x7d]" "[\"\",\x7b\"\":null".toList code .null rfl⟩

end GraphicsProfile.Document
