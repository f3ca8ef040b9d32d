import GraphicsProfile.Document.Grammar.Literal
import GraphicsProfile.Document.Mark
import GraphicsProfile.Proofs.Document.Readers

namespace GraphicsProfile.Document

open Grammar

variable {text middle rest : List Char} {char : Char}

theorem isBlank_iff : isBlank char = true ↔ Blank char := by
  simp only [isBlank, Blank, Bool.or_eq_true, beq_iff_eq, or_assoc]

theorem isBlank_eq_false_iff : isBlank char = false ↔ ¬ Blank char := by
  rw [← isBlank_iff, Bool.not_eq_true]

theorem skipBlanks_of_blank (blank : isBlank char = true) :
    skipBlanks (char :: text) = skipBlanks text := by
  simp [skipBlanks, blank]

theorem skipBlanks_of_visible (visible : isBlank char = false) :
    skipBlanks (char :: text) = char :: text := by
  simp [skipBlanks, visible]

theorem blanks_skipBlanks (text : List Char) : Blanks text (skipBlanks text) := by
  induction text with
  | nil => exact .none
  | cons char text ih =>
      cases blank : isBlank char with
      | true =>
          rw [skipBlanks_of_blank blank]
          exact .more (isBlank_iff.mp blank) ih
      | false =>
          rw [skipBlanks_of_visible blank]
          exact .none

theorem visible_of_skipBlanks (skipped : skipBlanks text = char :: rest) :
    isBlank char = false := by
  induction text with
  | nil => contradiction
  | cons first text ih =>
      cases blank : isBlank first with
      | true => exact ih (by rwa [skipBlanks_of_blank blank] at skipped)
      | false =>
          rw [skipBlanks_of_visible blank] at skipped
          cases skipped
          exact blank

theorem Grammar.Blanks.skipBlanks_eq (blanks : Blanks text rest) :
    skipBlanks text = skipBlanks rest := by
  induction blanks with
  | none => rfl
  | more blank _ ih => rw [skipBlanks_of_blank (isBlank_iff.mpr blank), ih]

theorem Grammar.Blanks.trans (first : Blanks text middle) (second : Blanks middle rest) :
    Blanks text rest := by
  induction first with
  | none => exact second
  | more blank _ ih => exact .more blank (ih second)

theorem blanks_of_forall {blanks : List Char} (blank : ∀ char ∈ blanks, Blank char)
    (rest : List Char) : Blanks (blanks ++ rest) rest := by
  induction blanks with
  | nil => exact .none
  | cons char blanks ih =>
      obtain ⟨first, later⟩ := List.forall_mem_cons.mp blank
      exact .more first (ih later)

/-- The grammar may leave some of the blanks in front of a value, and the reader never does. The two
meet wherever a character that is no blank has to follow. -/
theorem skipBlanks_eq_cons_iff :
    skipBlanks text = char :: rest ↔ Blanks text (char :: rest) ∧ isBlank char = false := by
  refine ⟨fun skipped => ?_, fun given => ?_⟩
  · have blanks := blanks_skipBlanks text
    rw [skipped] at blanks
    exact ⟨blanks, visible_of_skipBlanks skipped⟩
  · obtain ⟨blanks, visible⟩ := given
    rw [blanks.skipBlanks_eq, skipBlanks_of_visible visible]

theorem skipBlanks_eq_nil_iff : skipBlanks text = [] ↔ Blanks text [] := by
  constructor
  · intro skipped
    have blanks := blanks_skipBlanks text
    rwa [skipped] at blanks
  · exact fun blanks => blanks.skipBlanks_eq

/-- Skipping blanks a second time finds none. -/
theorem skipBlanks_idem (text : List Char) : skipBlanks (skipBlanks text) = skipBlanks text :=
  (blanks_skipBlanks text).skipBlanks_eq.symm

/-- A number that stands here has ended: nothing is left, or what follows cannot belong to it. -/
def Delimited (text : List Char) : Prop :=
  ∀ char ∈ text.head?, Blank char ∨ char = ',' ∨ char = ']' ∨ char = '}'

theorem Grammar.Blanks.delimited {mark : Char} (blanks : Blanks text (mark :: rest))
    (ending : mark = ',' ∨ mark = ']' ∨ mark = '}') : Delimited text := by
  cases blanks with
  | none => exact fun char member => .inr ((Option.mem_some.mp member) ▸ ending)
  | more blank _ => exact fun char member => .inl ((Option.mem_some.mp member) ▸ blank)

theorem word_eq_ok_iff {expected : List Char} :
    word expected text = .ok ((), rest) ↔ text = expected ++ rest := by
  induction expected generalizing text with
  | nil => simp [word]
  | cons first expected ih =>
      cases text with
      | nil => simp [word]
      | cons char text =>
          by_cases same : char = first
          · simp [word, same, ih]
          · simp [word, same]

theorem colon_eq_ok_iff : colon text = .ok ((), rest) ↔ Blanks text (':' :: rest) := by
  refine ⟨fun success => ?_, fun blanks => ?_⟩
  · simp only [colon] at success
    split at success
    · contradiction
    · rename_i found
      cases success
      exact (skipBlanks_eq_cons_iff.mp found).1
    · contradiction
  · have found := skipBlanks_eq_cons_iff.mpr ⟨blanks, rfl⟩
    simp only [colon, found]

end GraphicsProfile.Document
