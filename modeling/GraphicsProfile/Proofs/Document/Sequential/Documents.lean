import GraphicsProfile.Proofs.Document.Acceptance
import GraphicsProfile.Proofs.Document.Sequential.Members
import GraphicsProfile.Proofs.Document.Sequential.Skipping

namespace GraphicsProfile.Document

open Grammar Reader Text

variable {follows exempt : List Char → Prop} {text rest row : List Char}

theorem nameValue_orderly : Orderly Delimited exempt nameValue := by
  refine .peek .endOfValue
    (fun char => if char = '"' then behindNext literal else mismatch .name) Never
    (fun found => ?_) (fun found => ?_) (fun alike => ?_) (fun char => ?_) rfl False.elim
  · simp only [nameValue, found]
    rfl
  · simp only [nameValue, found]
    split <;> simp_all
  · simp (disch := decide) only [alike.eq_iff]
  · exact .ite literal_orderly.behindNext_strict ((mismatch_sequential .name).orderly_of_never
      (mismatch_wanting .name).patient (mismatch_refuses .name))

theorem codeOfNumber_sequential (number : Number) : Sequential follows (codeOfNumber number) := by
  unfold codeOfNumber
  split
  · exact .ite (.pure _) (.stop (by simp [Cause.category]))
  · exact .stop (by simp [Cause.category])

theorem codeValue_sequential : Sequential Delimited codeValue := by
  refine .peek (.error (Cause.endOfValue.before [])) (fun char =>
      if char = '-' ∨ char.isDigit then number >>= codeOfNumber else mismatch .code)
    (fun found => ?_) (fun found => ?_) (fun alike => ?_) (fun char => ?_) ⟨rfl, fun _ => rfl⟩
  · simp only [codeValue, found]
    rfl
  · simp [codeValue, found, startsNumber]
  · simp (disch := decide) only [alike.eq_iff, alike.isDigit]
  · exact .ite (number_sequential.bind codeOfNumber_sequential) (mismatch_sequential .code)

theorem codeValue_wanting : Wanting codeValue :=
  ⟨_, rfl, rfl⟩

theorem decimalValue_append_le (front back : List Char) :
    decimalValue front ≤ decimalValue (front ++ back) := by
  have value : decimalValue (front ++ back) = decimalFrom (decimalValue front) back := by
    simp only [decimalValue_eq, decimalFrom, List.foldl_append]
  rw [value]
  exact le_decimalFrom _ back

/-- The front of a whole number is a whole number, and no greater one. -/
theorem whole_front {more : List Char} (whole : Whole (text ++ more) row rest)
    (nonempty : text ≠ []) (short : byteSize rest ≤ byteSize more) :
    Whole text text [] ∧ decimalValue text ≤ decimalValue row := by
  obtain ⟨form, noLeadingZero⟩ := whole
  obtain ⟨split, decimal⟩ := form.split
  have size := congrArg byteSize split
  rw [byteSize_append, byteSize_append] at size
  obtain ⟨between, rfl⟩ := exists_front_of_append split.symm (by omega)
  refine ⟨.digits ?_ fun leading => ?_, decimalValue_append_le text between⟩
  · have read : digits (text ++ []) = .ok (text ++ [], []) := digits_append (fun digit member =>
      decimal digit (List.mem_append_left between member)) nonempty
    simpa using digits_sound read
  · cases text with
    | nil => exact absurd rfl nonempty
    | cons first text =>
        have alone := noLeadingZero leading
        rw [List.cons_append, List.cons.injEq, List.append_eq_nil_iff] at alone
        rw [alone.1, alone.2.1]

/-- A text that can go on to a code is a code already, or it wants more text. -/
theorem codeValue_orderly : Orderly Delimited exempt codeValue where
  toSequential := codeValue_sequential
  patient stopped category := absurd (codeValue_wanting.patient stopped) category
  refused {text fault} stopped category := by
    refine .inr fun more result success => ?_
    obtain ⟨code, rest⟩ := result
    by_cases found : skipBlanks text = []
    · have wants : codeValue text = codeValue [] := by
        simp only [codeValue, found]
        rfl
      rw [wants] at stopped
      exact category (codeValue_wanting.patient stopped)
    · by_cases short : byteSize rest ≤ byteSize more
      · have form := codeValue_sound success
        rw [skipBlanks_append found] at form
        obtain ⟨whole, exact⟩ := form
        obtain ⟨front, smaller⟩ := whole_front whole found short
        have bound := code.toNat_lt
        have fits : decimalValue (skipBlanks text) < UInt32.size := by
          simp only [UInt32.size]
          omega
        have read := codeValue_complete (blanks_skipBlanks text)
          (.whole front (UInt32.toNat_ofNat_of_lt' fits).symm) fun _ member => by cases member
        rw [read] at stopped
        cases stopped
      · have nonempty : text ≠ [] := by
          rintro rfl
          exact found rfl
        obtain ⟨_, read, _⟩ := codeValue_sequential.value (Agree.append nonempty more).symm success
          (by omega)
        rw [read] at stopped
        cases stopped

theorem bindingMember_orderly (name : String) (bindings : Table UInt32) :
    Orderly Delimited exempt (bindingMember name bindings) :=
  colon_orderly.bind_strict fun _ => codeValue_orderly.bind_strict fun _ => .pure _

theorem bindingsValue_orderly : Orderly Delimited exempt bindingsValue := by
  refine .peek .endOfValue (fun char =>
      if char = '{' then behindNext (foldMembers bindingMember bindingMember_keeps .empty)
      else mismatch .bindings) Never
    (fun found => ?_) (fun found => ?_) (fun alike => ?_) (fun char => ?_) rfl False.elim
  · simp only [bindingsValue, found]
    rfl
  · simp only [bindingsValue, found]
    split <;> simp_all
  · simp (disch := decide) only [alike.eq_iff]
  · have members : Orderly Delimited (Partway Binding Never)
        (foldMembers bindingMember bindingMember_keeps .empty) :=
      foldMembers_orderly bindingLaw
        (fun name bindings => (bindingMember_orderly name bindings).toFirm)
        (fun _ never => never) .empty
    refine .ite (members.behindNext fun partway => ?_)
      ((mismatch_sequential .bindings).orderly_of_never
        (mismatch_wanting .bindings).patient (mismatch_refuses .bindings))
    obtain ⟨_, _, _, never⟩ := partway
    exact never.elim

theorem refuseRepeated_firm (field : Field) : Firm Never exempt (refuseRepeated field) := by
  refine Sequential.firm_of_never ?_ fun text result => refuseRepeated_ne_ok
  have given : (Cause.duplicateField field).category ≠ .truncated := by simp [Cause.category]
  refine .peek (.error ((Cause.duplicateField field).before [])) (fun char =>
      if char = '}' then behindNext (stop (.duplicateField field))
      else stop (.duplicateField field))
    (fun found => ?_) (fun found => ?_) (fun alike => ?_) (fun char => ?_) ⟨rfl, False.elim⟩
  · simp only [refuseRepeated, found]
  · simp only [refuseRepeated, found]
    split <;> simp_all
  · simp (disch := decide) only [alike.eq_iff]
  · exact .ite (.behindNext (.stop given)) (.stop given)

theorem fieldValue_orderly (draft : Draft) (field : Field) :
    Orderly Delimited exempt (fieldValue draft field) := by
  cases field with
  | name => exact colon_orderly.bind_strict fun _ => nameValue_orderly.bind_strict fun _ => .pure _
  | bindings =>
      exact colon_orderly.bind_strict fun _ => bindingsValue_orderly.bind_strict fun _ => .pure _

/-- Behind its key, a member without meaning ends inside a number, where a digit has to follow. -/
inductive CutValue : String → List Char → Prop where
  | other {key : String} {text separated number : List Char} (unknown : Field.ofKey? key = none)
      (around : Blanks text (':' :: separated)) (within : Within (skipBlanks separated) number)
      (unfinished : UnfinishedNumber number) : CutValue key text

theorem documentMember_firm (key : String) (draft : Draft) :
    Firm Never (CutValue key) (documentMember key draft) := by
  unfold documentMember
  split
  · split
    · exact refuseRepeated_firm _
    · exact ((fieldValue_orderly draft _).weaken False.elim).toFirm
  · rename_i unknown
    refine (colon_orderly.bind _ (fun _ => skipValue_orderly.bind_strict fun _ => .pure _)
      fun read given => ?_).toFirm
    obtain ⟨number, within, unfinished⟩ := given
    exact .other unknown (colon_eq_ok_iff.mp read) within unfinished

theorem cutMember_of_cutValue {key : String} {middle : List Char}
    (opened : openKey (skipBlanks text) = .ok (key, middle)) (cut : CutValue key middle) :
    CutMember text := by
  obtain ⟨unknown, around, within, unfinished⟩ := cut
  obtain ⟨spelled, found, form⟩ := openKey_eq_ok_iff.mp opened
  have other : ∀ field : Field, key ≠ field.key := by
    intro field same
    rw [ofKey?_eq_some_iff.mpr same] at unknown
    contradiction
  exact .other (.quoted (skipBlanks_eq_cons_iff.mp found).1 form around) (other .name)
    (other .bindings) (blanks_skipBlanks _) within unfinished

theorem documentElements_orderly : Orderly Delimited exempt documentElements := by
  refine (firstElement_sequential.orderly (Wanting.patient ⟨_, rfl, rfl⟩)).bind_strict
    fun more => ?_
  cases more with
  | false => exact .pure Draft.empty
  | true =>
      refine nameValue_orderly.bind_strict fun name => ?_
      refine (nextElement_sequential.orderly (Wanting.patient ⟨_, rfl, rfl⟩)).bind_strict
        fun more => ?_
      cases more with
      | false => exact .pure _
      | true => exact bindingsValue_orderly.bind_strict fun bindings => .pure _

theorem documentValue_orderly : Orderly Never CutInNumber documentValue := by
  refine .peek .endOfValue (fun char =>
      if char = '{' then behindNext (foldMembers documentMember documentMember_keeps .empty)
      else if char = '[' then behindNext (documentElements >>= fun draft =>
        closeList >>= fun _ => pure draft)
      else mismatch .document)
    (fun text => ∃ members, text = '{' :: members ∧ Partway Member CutMember members)
    (fun found => ?_) (fun {_ char _} found => ?_) (fun alike => ?_) (fun char => ?_) rfl
    fun given => ?_
  · simp only [documentValue, found]
    rfl
  · simp only [documentValue, found]
    by_cases bracket : char = '['
    · subst bracket
      rfl
    · split <;> simp_all
  · simp (disch := decide) only [alike.eq_iff]
  · have members : Orderly Never (Partway Member CutMember)
        (foldMembers documentMember documentMember_keeps .empty) :=
      foldMembers_orderly documentLaw documentMember_firm cutMember_of_cutValue .empty
    have elements : Orderly Never Never (documentElements >>= fun draft =>
        closeList >>= fun _ => pure draft) :=
      (documentElements_orderly.weaken False.elim).bind_strict fun draft =>
        closeList_orderly.bind_strict fun _ => .pure draft
    split
    · rename_i brace
      refine members.behindNext fun partway same => ?_
      rw [Option.some.inj same, brace]
      exact ⟨_, rfl, partway⟩
    · exact .ite elements.behindNext_strict (((mismatch_sequential .document).weaken
        False.elim).orderly_of_never (mismatch_wanting .document).patient
        (mismatch_refuses .document))
  · obtain ⟨members, found, contributions, last, leading, cut⟩ := given
    exact .object (skipBlanks_eq_cons_iff.mp found).1 leading cut

theorem documentEnd_orderly : Orderly Never exempt documentEnd where
  toSequential := by
    refine .peek (.ok ((), [])) (fun _ => refuse .trailingCharacters) (fun found => ?_)
      (fun found => ?_) (fun _ => rfl) (fun char => .refuse (by decide)) ⟨rfl, False.elim⟩
    · simp only [documentEnd, found]
    · simp only [documentEnd, found]
      rfl
  patient stopped := by cases stopped
  refused {text fault} stopped _ := by
    refine .inr fun more result success => ?_
    cases found : skipBlanks text with
    | nil =>
        simp only [documentEnd, found] at stopped
        cases stopped
    | cons char rest =>
        have same : skipBlanks (text ++ more) = skipBlanks text ++ more :=
          skipBlanks_append (by simp [found]) more
        rw [found] at same
        simp only [documentEnd, same] at success
        cases success

/-- A whole document is refused for good, unless it ends inside a number without meaning, where a
digit has to follow. -/
theorem wholeDocument_orderly : Orderly Never CutInNumber wholeDocument :=
  documentValue_orderly.bind_strict fun _ => documentEnd_orderly.bind_strict fun _ => .pure _

theorem closeList_closed (success : closeList text = .ok ((), rest)) :
    Closed closeList () text rest :=
  .of_blanks (closeList_eq_ok_iff.mp success) rfl closeList_eq_ok_iff.mpr

/-- A document ends at a bracket, whatever follows it. -/
theorem documentValue_closed {draft : Draft} (success : documentValue text = .ok (draft, rest)) :
    Closed documentValue draft text rest := by
  unfold documentValue at success
  split at success
  · rename_i members found
    have closed := foldMembers_closed
      (fun key draft => (documentMember_firm key draft).toSequential) success
    refine closed.behindOpening found fun found => ?_
    simp only [documentValue, found]
  · rename_i elements found
    obtain ⟨⟨held, behind⟩, read, success⟩ := except_bind_eq_ok success
    obtain ⟨⟨_, ending⟩, closing, same⟩ := except_bind_eq_ok success
    cases same
    have closed : Closed (documentElements >>= fun draft => closeList >>= fun _ => pure draft)
        draft elements rest :=
      .bind (documentElements_orderly : Orderly Delimited Never _).toSequential read
        ((closeList_closed closing).settle fun _ => rfl)
    refine closed.behindOpening found fun found => ?_
    simp only [documentValue, found]
    rfl
  · exact absurd success (mismatch_refuses _ _ _)

end GraphicsProfile.Document
