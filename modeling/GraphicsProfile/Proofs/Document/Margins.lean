import GraphicsProfile.Proofs.Document.Fronts

namespace GraphicsProfile.Document

open Grammar Text

variable {front text : List Char} {fault : Fault}

theorem readRegistry_of_blanks (blanks : Blanks (front ++ text) text) :
    readRegistry (front ++ text) = readRegistry text := by
  rw [readRegistry, readRegistry, wholeDocument_of_blanks blanks]

/-- A fault is placed by what is left behind it, so that text in front moves it along. -/
theorem within_append (bound : fault.left ≤ byteSize text) :
    fault.within (front ++ text) =
      ⟨fault.cause, (fault.within text).position.movedBy (bytes front)⟩ := by
  have place : byteSize (front ++ text) - fault.left =
      (bytes front).length + (byteSize text - fault.left) := by
    rw [byteSize_append, length_bytes]
    omega
  simp only [Fault.within, place, bytes_append, List.take_length_add_append,
    position_after_append]

/-- Behind blanks a document is accepted or refused as it is without them, as the same registry or
for the same reason. The position of an error moves with the text. -/
theorem load_behind_blanks {blanks : String}
    (blank : ∀ char ∈ blanks.toList, char = ' ' ∨ char = '\t' ∨ char = '\r' ∨ char = '\n')
    (document : String) :
    (∀ registry, (Registry.load (blanks ++ document)).value = .ok registry ↔
      (Registry.load document).value = .ok registry) ∧
    ∀ failure, (Registry.load document).value = .error failure →
      ∃ error moved text, failure = .badDocument error ∧
        (Registry.load (blanks ++ document)).value = .error (.badDocument moved) ∧
        moved.category = error.category ∧
        error.message = text ++ " at line " ++ toString error.position.line ++
          " column " ++ toString error.position.column ∧
        moved.message = text ++ " at line " ++ toString moved.position.line ++
          " column " ++ toString moved.position.column ∧
        moved.position = error.position.movedBy (bytes blanks.toList) := by
  have front : Blanks (blanks.toList ++ document.toList) document.toList := by
    apply blanks_of_all
    refine List.all_eq_true.mpr fun char member => ?_
    rcases blank char member with rfl | rfl | rfl | rfl <;> rfl
  have same : readRegistry (blanks ++ document).toList = readRegistry document.toList := by
    rw [String.toList_append, readRegistry_of_blanks front]
  refine ⟨fun registry => ?_, fun failure refused => ?_⟩
  · rw [load_value_eq_ok_iff, load_value_eq_ok_iff, same]
  · cases read : readRegistry document.toList with
    | ok registry =>
        rw [load_value_eq_ok_iff.mpr read] at refused
        cases refused
    | error fault =>
        have bound := wholeDocument_orderly.bounded (readRegistry_eq_error_iff.mp read)
        rw [load_of_fault read] at refused
        cases refused
        rw [load_of_fault (same.trans read), String.toList_append, within_append bound]
        exact ⟨_, _, fault.cause.description, rfl, rfl, rfl, rfl, rfl, rfl⟩

theorem load_behind_blanks_indented :
    ∃ error, (Registry.load " \n\t[null]").value = .error (.badDocument error) ∧
      error.category = .mismatched ∧ error.position = ⟨2, 6⟩ := by
  have blank : ∀ char ∈ " \n\t".toList, char = ' ' ∨ char = '\t' ∨ char = '\r' ∨ char = '\n' := by
    simp
  have refused : (Registry.load "[null]").value =
      .error (.badDocument ⟨.wrongType .null .name, ⟨1, 5⟩⟩) := rfl
  obtain ⟨error, moved, text, failed, shown, category, _, _, place⟩ :=
    (load_behind_blanks blank "[null]").2 _ refused
  cases failed
  exact ⟨moved, shown, category, place⟩

end GraphicsProfile.Document
