import GraphicsProfile.Proofs.Document.Sequential.Documents

/-! What readers can report. The readers of marks, literals and numbers and those that pass over
values report faults of form only: that a text ends too early or is not well formed. What does not
belong where it stands is for the readers of kept values to say. -/

namespace GraphicsProfile.Document

open Reader

variable {α β σ : Type}

namespace Reader

/-- Every fault of the reader has an allowed cause. -/
def Faults (allowed : Cause → Prop) (reader : Reader α) : Prop :=
  ∀ ⦃text fault⦄, reader text = .error fault → allowed fault.cause

namespace Faults

variable {allowed : Cause → Prop} {reader : Reader α}

theorem mono {fewer : Cause → Prop} (faults : Faults fewer reader)
    (included : ∀ {cause}, fewer cause → allowed cause) : Faults allowed reader :=
  fun _ _ stopped => included (faults stopped)

theorem pure (value : α) : Faults allowed (pure value : Reader α) :=
  fun _ _ stopped => by cases stopped

theorem stop {cause : Cause} (given : allowed cause) : Faults allowed (stop cause : Reader α) := by
  intro text fault stopped
  cases stopped
  exact given

theorem bind {next : α → Reader β} (first : Faults allowed reader)
    (second : ∀ value, Faults allowed (next value)) : Faults allowed (reader >>= next) := by
  intro text fault stopped
  rcases bind_eq_error_iff.mp stopped with stopped | ⟨value, middle, _, stopped⟩
  · exact first stopped
  · exact second value stopped

theorem map {change : α → β} (faults : Faults allowed reader) :
    Faults allowed (change <$> reader) := by
  rw [map_eq_pure_bind]
  exact faults.bind fun value => pure (change value)

theorem ite {condition : Prop} [Decidable condition] {first second : Reader α}
    (one : Faults allowed first) (other : Faults allowed second) :
    Faults allowed (if condition then first else second) := by
  split
  · exact one
  · exact other

theorem run {step : σ → Reader (Option σ)} {progress : Progresses step}
    (each : ∀ state, Faults allowed (step state)) (state : σ) :
    Faults allowed (run step progress state) := by
  intro text fault stopped
  fun_induction Reader.run step progress state text with
  | case1 state text other failed =>
      cases stopped
      exact each state failed
  | case2 => cases stopped
  | case3 state text next middle continued ih => exact ih stopped

end Faults

end Reader

/-- The text ends too early or is not well formed. -/
def Formal (cause : Cause) : Prop :=
  cause.category ≠ .mismatched

theorem formal_of_error {cause : Cause} {left : Nat} {fault : Fault}
    (stopped : (.error ⟨cause, left⟩ : Except Fault α) = .error fault)
    (given : cause.category ≠ .mismatched) : Formal fault.cause := by
  cases stopped
  exact given

theorem word_faults (expected : List Char) : Faults Formal (word expected) := by
  intro text fault stopped
  induction expected generalizing text with
  | nil => cases stopped
  | cons first expected ih =>
      cases text with
      | nil =>
          exact formal_of_error stopped (by decide)
      | cons char text =>
          simp only [word] at stopped
          split at stopped
          · exact ih stopped
          · exact formal_of_error stopped (by decide)

theorem colon_faults : Faults Formal colon := by
  intro text fault stopped
  simp only [colon] at stopped
  split at stopped
  · exact formal_of_error stopped (by decide)
  · cases stopped
  · exact formal_of_error stopped (by decide)

section Literals

theorem fourHexDigits_faults : Faults Formal fourHexDigits := by
  intro text fault stopped
  simp only [fourHexDigits] at stopped
  split at stopped
  · exact formal_of_error stopped (by decide)
  · split at stopped
    · split at stopped
      · cases stopped
      · exact formal_of_error stopped (by decide)
    · exact formal_of_error stopped (by decide)

theorem pairMark_faults (expected : Char) : Faults Formal (pairMark expected) := by
  intro text fault stopped
  cases text with
  | nil =>
      exact formal_of_error stopped (by decide)
  | cons char text =>
      simp only [pairMark] at stopped
      split at stopped
      · cases stopped
      · exact formal_of_error stopped (by decide)

theorem codePointEscape_faults : Faults Formal codePointEscape := by
  have lone : Formal .loneSurrogate := fun same => by cases same
  refine fourHexDigits_faults.bind fun unit => .ite (.stop lone) (.ite ?_ (.pure _))
  refine (pairMark_faults _).bind fun _ => (pairMark_faults _).bind fun _ => ?_
  exact fourHexDigits_faults.bind fun partner => .ite (.pure _) (.stop lone)

theorem escape_faults : Faults Formal escape := by
  intro text fault stopped
  simp only [escape] at stopped
  split at stopped
  · exact formal_of_error stopped (by decide)
  · exact codePointEscape_faults stopped
  · split at stopped
    · cases stopped
    · exact formal_of_error stopped (by decide)

theorem literalStep_faults (decoded : String) : Faults Formal (literalStep decoded) := by
  intro text fault stopped
  simp only [literalStep] at stopped
  split at stopped
  · exact formal_of_error stopped (by decide)
  · cases stopped
  · rcases except_bind_eq_error_iff.mp stopped with stopped | ⟨_, _, stopped⟩
    · exact escape_faults stopped
    · cases stopped
  · split at stopped
    · exact formal_of_error stopped (by decide)
    · cases stopped

theorem literal_faults : Faults Formal literal :=
  .run literalStep_faults ""

theorem skipEscape_faults : Faults Formal skipEscape := by
  intro text fault stopped
  simp only [skipEscape] at stopped
  split at stopped
  · exact formal_of_error stopped (by decide)
  · rcases except_bind_eq_error_iff.mp stopped with stopped | ⟨_, _, stopped⟩
    · exact fourHexDigits_faults stopped
    · cases stopped
  · split at stopped
    · cases stopped
    · exact formal_of_error stopped (by decide)

theorem skipLiteralStep_faults (state : Unit) : Faults Formal (skipLiteralStep state) := by
  intro text fault stopped
  simp only [skipLiteralStep] at stopped
  split at stopped
  · exact formal_of_error stopped (by decide)
  · cases stopped
  · rcases except_bind_eq_error_iff.mp stopped with stopped | ⟨_, _, stopped⟩
    · exact skipEscape_faults stopped
    · cases stopped
  · split at stopped
    · exact formal_of_error stopped (by decide)
    · cases stopped

theorem skipLiteral_faults : Faults Formal skipLiteral :=
  .run skipLiteralStep_faults ()

end Literals

section Numbers

theorem digits_faults : Faults Formal digits := by
  intro text fault stopped
  simp only [digits] at stopped
  split at stopped
  · exact formal_of_error stopped (by decide)
  · split at stopped
    · cases stopped
    · exact formal_of_error stopped (by decide)

theorem integerDigits_faults : Faults Formal integerDigits := by
  intro text fault stopped
  simp only [integerDigits] at stopped
  split at stopped
  · split at stopped
    · exact formal_of_error stopped (by decide)
    · cases stopped
  · exact digits_faults stopped

theorem fractionPart_faults (number : Scientific) : Faults Formal (fractionPart number) := by
  intro text fault stopped
  simp only [fractionPart] at stopped
  split at stopped
  · exact digits_faults.map stopped
  · cases stopped

theorem raiseExponent_faults (number : Scientific) (negative : Bool) (row : List Char) :
    Faults Formal (raiseExponent number negative row) := by
  intro text fault stopped
  simp only [raiseExponent] at stopped
  split at stopped
  · cases stopped
  · split at stopped
    · cases stopped
    · exact formal_of_error stopped (by decide)

theorem exponentDigits_faults (number : Scientific) : Faults Formal (exponentDigits number) := by
  intro text fault stopped
  rcases except_bind_eq_error_iff.mp stopped with stopped | ⟨⟨row, rest⟩, _, stopped⟩
  · exact digits_faults stopped
  · exact raiseExponent_faults _ _ _ stopped

theorem exponentPart_faults (number : Scientific) : Faults Formal (exponentPart number) := by
  intro text fault stopped
  simp only [exponentPart] at stopped
  split at stopped
  · cases stopped
  · split at stopped
    · exact exponentDigits_faults number stopped
    · cases stopped

theorem realNumber_faults (negative : Bool) (number : Scientific) :
    Faults Formal (realNumber negative number) := by
  intro text fault stopped
  simp only [realNumber] at stopped
  split at stopped
  · cases stopped
  · exact formal_of_error stopped (by decide)

theorem realParts_faults (negative : Bool) (whole : Scientific) :
    Faults Formal (realParts negative whole) :=
  (fractionPart_faults whole).bind fun decimal =>
    (exponentPart_faults decimal).bind fun number => realNumber_faults negative number

theorem behindWhole_faults (negative : Bool) (whole : Scientific) :
    Faults Formal (behindWhole negative whole) := by
  intro text fault stopped
  simp only [behindWhole] at stopped
  split at stopped
  · exact realParts_faults negative whole stopped
  · cases stopped

theorem magnitude_faults (negative : Bool) : Faults Formal (magnitude negative) := by
  rw [magnitude_eq]
  exact integerDigits_faults.bind fun row =>
    .ite (behindWhole_faults negative _) (realParts_faults negative _)

theorem number_faults : Faults Formal number := by
  intro text fault stopped
  simp only [number] at stopped
  split at stopped
  · exact magnitude_faults true stopped
  · exact magnitude_faults false stopped

theorem skipInteger_faults : Faults Formal skipInteger := by
  intro text fault stopped
  simp only [skipInteger] at stopped
  split at stopped
  · exact formal_of_error stopped (by decide)
  · split at stopped
    · exact formal_of_error stopped (by decide)
    · cases stopped
  · split at stopped
    · cases stopped
    · exact formal_of_error stopped (by decide)

theorem skipDigits_faults : Faults Formal skipDigits := by
  intro text fault stopped
  simp only [skipDigits] at stopped
  split at stopped
  · cases stopped
  · exact formal_of_error stopped (by decide)

theorem skipFraction_faults : Faults Formal skipFraction := by
  intro text fault stopped
  simp only [skipFraction] at stopped
  split at stopped
  · exact skipDigits_faults stopped
  · cases stopped

theorem skipExponent_faults : Faults Formal skipExponent := by
  intro text fault stopped
  simp only [skipExponent] at stopped
  split at stopped
  · cases stopped
  · split at stopped
    · exact skipDigits_faults stopped
    · cases stopped

theorem skipMagnitude_faults : Faults Formal skipMagnitude :=
  skipInteger_faults.bind fun _ => skipFraction_faults.bind fun _ => skipExponent_faults

end Numbers

section Skipping

theorem skipScalar_faults : Faults Formal skipScalar := by
  intro text fault stopped
  simp only [skipScalar] at stopped
  split at stopped
  · exact formal_of_error stopped (by decide)
  · exact skipLiteral_faults stopped
  · exact word_faults _ stopped
  · exact word_faults _ stopped
  · exact word_faults _ stopped
  · exact skipMagnitude_faults stopped
  · split at stopped
    · exact skipMagnitude_faults stopped
    · exact formal_of_error stopped (by decide)

theorem skipOpening_faults : Faults Formal skipOpening := by
  intro text fault stopped
  simp only [skipOpening] at stopped
  split at stopped
  · cases stopped
  · cases stopped
  · rcases except_bind_eq_error_iff.mp stopped with stopped | ⟨_, _, stopped⟩
    · exact skipScalar_faults stopped
    · cases stopped

theorem skipKey_faults : Faults Formal skipKey := by
  intro text fault stopped
  simp only [skipKey] at stopped
  split at stopped
  · exact formal_of_error stopped (by decide)
  · exact skipLiteral_faults stopped
  · exact formal_of_error stopped (by decide)

theorem skipMember_faults (bracket : Bracket) (outer : List Bracket) :
    Faults Formal (skipMember bracket outer) := by
  have introduced : Faults Formal (skipIntroduction bracket) := by
    cases bracket with
    | list => exact .pure ()
    | object => exact skipKey_faults.bind fun _ => colon_faults
  refine introduced.bind fun _ => skipOpening_faults.bind fun opened => ?_
  cases opened <;> exact .pure _

theorem skipStep_faults (nesting : Nesting) : Faults Formal (skipStep nesting) := by
  intro text fault stopped
  simp only [skipStep] at stopped
  split at stopped
  · cases stopped
  · rename_i bracket outer _
    have member : Faults Formal (some <$> skipMember bracket outer) :=
      (skipMember_faults bracket outer).map
    split at stopped
    · cases stopped
      cases bracket <;> exact fun same => by cases same
    · split at stopped
      · cases stopped
      · split at stopped
        · exact member stopped
        · split at stopped
          · exact member stopped
          · cases stopped
            cases bracket <;> exact fun same => by cases same

theorem skipValue_faults : Faults Formal skipValue := by
  refine skipOpening_faults.bind fun opened => ?_
  cases opened with
  | none => exact .pure ()
  | some bracket => exact (Faults.run skipStep_faults _).bind fun _ => .pure ()

end Skipping

section Members

theorem openKey_faults : Faults Formal openKey := by
  intro text fault stopped
  simp only [openKey] at stopped
  split at stopped
  · exact literal_faults stopped
  · exact formal_of_error stopped (by decide)

theorem firstKey_faults : Faults Formal firstKey := by
  intro text fault stopped
  simp only [firstKey] at stopped
  split at stopped
  · exact formal_of_error stopped (by decide)
  · cases stopped
  · exact openKey_faults.map stopped

theorem nextKey_faults : Faults Formal nextKey := by
  intro text fault stopped
  simp only [nextKey] at stopped
  split at stopped
  · exact formal_of_error stopped (by decide)
  · cases stopped
  · split at stopped
    · exact formal_of_error stopped (by decide)
    · exact formal_of_error stopped (by decide)
    · exact openKey_faults.map stopped
  · exact formal_of_error stopped (by decide)

theorem firstElement_faults : Faults Formal firstElement := by
  intro text fault stopped
  simp only [firstElement] at stopped
  split at stopped
  · exact formal_of_error stopped (by decide)
  · cases stopped
  · cases stopped

theorem nextElement_faults : Faults Formal nextElement := by
  intro text fault stopped
  simp only [nextElement] at stopped
  split at stopped
  · exact formal_of_error stopped (by decide)
  · cases stopped
  · split at stopped
    · exact formal_of_error stopped (by decide)
    · exact formal_of_error stopped (by decide)
    · cases stopped
  · exact formal_of_error stopped (by decide)

theorem closeList_faults : Faults Formal closeList := by
  intro text fault stopped
  simp only [closeList] at stopped
  split at stopped
  · exact formal_of_error stopped (by decide)
  · cases stopped
  · split at stopped
    · exact formal_of_error stopped (by decide)
    · exact formal_of_error stopped (by decide)
  · exact formal_of_error stopped (by decide)

theorem documentEnd_faults : Faults Formal documentEnd := by
  intro text fault stopped
  simp only [documentEnd] at stopped
  split at stopped
  · cases stopped
  · exact formal_of_error stopped (by decide)

theorem foundValue_faults : Faults Formal foundValue := by
  intro text fault stopped
  unfold foundValue at stopped
  split at stopped
  · exact formal_of_error stopped (by decide)
  · cases stopped
  · cases stopped
  · exact literal_faults.map stopped
  · exact (word_faults _).map stopped
  · exact (word_faults _).map stopped
  · exact (word_faults _).map stopped
  · split at stopped
    · exact number_faults.map stopped
    · exact formal_of_error stopped (by decide)

end Members

section Values

/-- The cause is another one than that a field is repeated. -/
def Unrelated (cause : Cause) : Prop :=
  ∀ field, cause ≠ .duplicateField field

theorem unrelated_of_formal {cause : Cause} (formal : Formal cause) : Unrelated cause := by
  rintro field rfl
  exact formal rfl

theorem Reader.Faults.unrelated {reader : Reader α} (faults : Faults Formal reader) :
    Faults Unrelated reader :=
  faults.mono unrelated_of_formal

theorem mismatch_faults (place : Place) : Faults Unrelated (mismatch place : Reader α) :=
  foundValue_faults.unrelated.bind fun _ => .stop fun _ same => by cases same

theorem nameValue_faults : Faults Unrelated nameValue := by
  intro text fault stopped
  simp only [nameValue] at stopped
  split at stopped
  · exact literal_faults.unrelated stopped
  · exact mismatch_faults .name stopped

theorem codeOfNumber_faults (number : Number) : Faults Unrelated (codeOfNumber number) := by
  unfold codeOfNumber
  split
  · exact .ite (.pure _) (.stop fun _ same => by cases same)
  · exact .stop fun _ same => by cases same

theorem codeValue_faults : Faults Unrelated codeValue := by
  intro text fault stopped
  simp only [codeValue] at stopped
  split at stopped
  · exact (number_faults.unrelated.bind codeOfNumber_faults) stopped
  · exact mismatch_faults .code stopped

theorem bindingMember_faults (name : String) (bindings : Table UInt32) :
    Faults Unrelated (bindingMember name bindings) :=
  colon_faults.unrelated.bind fun _ => codeValue_faults.bind fun _ => .pure _

theorem memberStep_faults {allowed : Cause → Prop} {member : String → σ → Reader σ}
    (formal : ∀ {cause}, Formal cause → allowed cause)
    (each : ∀ key state, Faults allowed (member key state)) (state : σ) :
    Faults allowed (memberStep member state) := by
  refine (nextKey_faults.mono formal).bind fun key? => ?_
  cases key? with
  | none => exact .pure none
  | some key => exact (each key state).map

theorem foldMembers_faults {allowed : Cause → Prop} {member : String → σ → Reader σ}
    {keeps : ∀ key state, Keeps (member key state)}
    (formal : ∀ {cause}, Formal cause → allowed cause)
    (each : ∀ key state, Faults allowed (member key state)) (state : σ) :
    Faults allowed (foldMembers member keeps state) := by
  refine (firstKey_faults.mono formal).bind fun key? => ?_
  cases key? with
  | none => exact .pure state
  | some key => exact (each key state).bind (Faults.run (memberStep_faults formal each))

theorem bindingsValue_faults : Faults Unrelated bindingsValue := by
  intro text fault stopped
  simp only [bindingsValue] at stopped
  split at stopped
  · exact foldMembers_faults unrelated_of_formal bindingMember_faults .empty stopped
  · exact mismatch_faults .bindings stopped

theorem fieldValue_faults (draft : Draft) (field : Field) :
    Faults Unrelated (fieldValue draft field) := by
  cases field with
  | name =>
      exact colon_faults.unrelated.bind fun _ => nameValue_faults.bind fun _ => .pure _
  | bindings =>
      exact colon_faults.unrelated.bind fun _ => bindingsValue_faults.bind fun _ => .pure _

theorem documentElements_faults : Faults Unrelated documentElements := by
  refine firstElement_faults.unrelated.bind fun more => ?_
  cases more with
  | false => exact .pure _
  | true =>
      refine nameValue_faults.bind fun name => nextElement_faults.unrelated.bind fun more => ?_
      cases more with
      | false => exact .pure _
      | true => exact bindingsValue_faults.bind fun _ => .pure _

end Values

end GraphicsProfile.Document
