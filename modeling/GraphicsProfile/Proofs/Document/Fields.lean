import GraphicsProfile.Document.Reading
import GraphicsProfile.Proofs.Document.Members
import GraphicsProfile.Proofs.Document.Values

namespace GraphicsProfile.Document

open Grammar

variable {text value rest row : List Char} {code : UInt32} {draft next final : Draft}
  {contribution : Contribution} {contributions : List Contribution}

/-- A number that is a code has no sign: with one it is negative or not whole. -/
theorem number_code_sound {whole : Int} (success : number text = .ok (.whole whole, rest))
    (nonnegative : 0 ≤ whole) : ∃ row, Whole text row rest ∧ whole = decimalValue row := by
  simp only [number] at success
  split at success
  · obtain ⟨row, _, signed⟩ := magnitude_whole_sound success
    simp only [ofSignificand, Bool.not_true, Bool.false_eq_true, if_false] at signed
    split at signed
    · rename_i range
      have negative : -(decimalValue row : Int) = whole := Number.whole.inj signed
      omega
    · contradiction
  · obtain ⟨row, form, unsigned⟩ := magnitude_whole_sound success
    exact ⟨row, form, (Number.whole.inj unsigned).symm⟩

theorem codeValue_sound (success : codeValue text = .ok (code, rest)) :
    Code (skipBlanks text) code rest := by
  simp only [codeValue] at success
  split at success
  · obtain ⟨numeral, behind, read, accepted⟩ := Reader.bind_eq_ok success
    cases numeral with
    | real value => cases accepted
    | whole whole =>
        simp only [codeOfNumber] at accepted
        split at accepted
        · rename_i range
          obtain ⟨same, rfl⟩ := Reader.pure_eq_ok accepted
          obtain ⟨row, form, rfl⟩ := number_code_sound read range.1
          refine .whole form ?_
          have bound : decimalValue row < UInt32.size := by
            have upper := range.2
            simp only [UInt32.size]
            omega
          rw [← same, Int.toNat_natCast, UInt32.toNat_ofNat_of_lt' bound]
        · cases accepted
  · exact absurd success (mismatch_refuses _ _ _)

theorem number_code_complete (form : Whole text row rest) (delimited : Delimited rest)
    (fits : decimalValue row ≤ maxSignificand) :
    number text = .ok (.whole (decimalValue row), rest) := by
  have read : magnitude false text = .ok (.whole (decimalValue row), rest) :=
    magnitude_whole_complete form delimited fits
  obtain ⟨form, _⟩ := form
  cases text with
  | nil => cases form
  | cons digit text =>
      have noSign : digit ≠ '-' := ne_of_digit form.startsWithDigit rfl
      simp [number, noSign, read]

theorem codeValue_complete (space : Blanks text value) (form : Code value code rest)
    (delimited : Delimited rest) : codeValue text = .ok (code, rest) := by
  obtain ⟨whole, exact⟩ := form
  have bound := code.toNat_lt
  have read := number_code_complete whole delimited (by rw [exact, maxSignificand]; omega)
  obtain ⟨digits, _⟩ := whole
  cases value with
  | nil => cases digits
  | cons digit value =>
      have decimal : digit.isDigit = true := digits.startsWithDigit
      have found : skipBlanks text = digit :: value :=
        skipBlanks_eq_cons_iff.mpr ⟨space, visible_of_digit decimal⟩
      have starts : startsNumber (digit :: value) = true := by
        simp [startsNumber, decimal]
      have range : 0 ≤ (code.toNat : Int) ∧ (code.toNat : Int) < 0x100000000 := by omega
      rw [exact] at read
      simp only [codeValue, found, starts, if_true]
      refine Reader.bind_eq_ok_iff.mpr ⟨_, _, read, ?_⟩
      rw [codeOfNumber, if_pos range, Int.toNat_natCast, UInt32.ofNat_toNat]
      rfl

theorem keyedMember_eq_ok_iff {σ : Type} {member : String → σ → Reader σ} {state next : σ} :
    keyedMember member state text = .ok (next, rest) ↔
      ∃ key spelled behind, Blanks text ('"' :: spelled) ∧ Literal spelled key.toList behind ∧
        member key state behind = .ok (next, rest) := by
  refine ⟨fun success => ?_, fun given => ?_⟩
  · obtain ⟨key, behind, opened, read⟩ := Reader.bind_eq_ok success
    obtain ⟨spelled, found, form⟩ := openKey_eq_ok_iff.mp opened
    exact ⟨key, spelled, behind, (skipBlanks_eq_cons_iff.mp found).1, form, read⟩
  · obtain ⟨key, spelled, behind, blanks, form, read⟩ := given
    have found := skipBlanks_eq_cons_iff.mpr ⟨blanks, rfl⟩
    exact Reader.bind_eq_ok_iff.mpr ⟨_, _, openKey_eq_ok_iff.mpr ⟨_, found, form⟩, read⟩

theorem bindingMember_eq_ok_iff {name : String} {bindings bound : Table UInt32} :
    bindingMember name bindings text = .ok (bound, rest) ↔
      ∃ separated code, Blanks text (':' :: separated) ∧ codeValue separated = .ok (code, rest) ∧
        bound = bindings.insert name code := by
  refine ⟨fun success => ?_, fun given => ?_⟩
  · obtain ⟨_, separated, colon, success⟩ := Reader.bind_eq_ok success
    obtain ⟨code, behind, read, success⟩ := Reader.bind_eq_ok success
    obtain ⟨same, rfl⟩ := Reader.pure_eq_ok success
    exact ⟨separated, code, colon_eq_ok_iff.mp colon, read, same.symm⟩
  · obtain ⟨separated, code, colon, read, rfl⟩ := given
    refine Reader.bind_eq_ok_iff.mpr ⟨_, _, colon_eq_ok_iff.mpr colon, ?_⟩
    exact Reader.bind_eq_ok_iff.mpr ⟨_, _, read, rfl⟩

theorem bindingLaw : MemberLaw bindingMember Binding
    (fun bindings binding => some (bindings.insert binding.1 binding.2)) where
  sound success := by
    obtain ⟨name, spelled, behind, blanks, form, success⟩ := keyedMember_eq_ok_iff.mp success
    obtain ⟨separated, code, colon, read, rfl⟩ := bindingMember_eq_ok_iff.mp success
    have key := Key.quoted blanks form colon
    exact ⟨(name, code), .member key (blanks_skipBlanks _) (codeValue_sound read), rfl⟩
  complete form delimited accepted := by
    obtain ⟨key, space, form⟩ := form
    obtain ⟨blanks, spelled, colon⟩ := key
    cases accepted
    have read := codeValue_complete space form delimited
    exact keyedMember_eq_ok_iff.mpr ⟨_, _, _, blanks, spelled,
      bindingMember_eq_ok_iff.mpr ⟨_, _, colon, read, rfl⟩⟩

theorem nameValue_eq_ok_iff {name : String} :
    nameValue text = .ok (name, rest) ↔
      ∃ spelled, Blanks text ('"' :: spelled) ∧ Literal spelled name.toList rest := by
  refine ⟨fun success => ?_, fun given => ?_⟩
  · simp only [nameValue] at success
    split at success
    · rename_i spelled found
      exact ⟨spelled, (skipBlanks_eq_cons_iff.mp found).1, literal_eq_ok_iff.mp success⟩
    · exact absurd success (mismatch_refuses _ _ _)
  · obtain ⟨spelled, blanks, form⟩ := given
    simp only [nameValue, skipBlanks_eq_cons_iff.mpr ⟨blanks, rfl⟩]
    exact literal_eq_ok_iff.mpr form

theorem foldlM_insert (table : Table UInt32) (bindings : List (String × UInt32)) :
    bindings.foldlM (fun bindings binding => some (bindings.insert binding.1 binding.2)) table =
      some (bindings.foldl (fun bindings binding => bindings.insert binding.1 binding.2) table) :=
  List.foldlM_pure

theorem bindingsValue_eq_ok_iff {table : Table UInt32} :
    bindingsValue text = .ok (table, rest) ↔
      ∃ members bindings, Blanks text ('{' :: members) ∧ Enclosed Binding members bindings rest ∧
        Table.ofList bindings = table := by
  refine ⟨fun success => ?_, fun given => ?_⟩
  · simp only [bindingsValue] at success
    split at success
    · rename_i members found
      obtain ⟨bindings, enclosed, folded⟩ := (foldMembers_eq_ok_iff bindingLaw).mp success
      refine ⟨members, bindings, (skipBlanks_eq_cons_iff.mp found).1, enclosed, ?_⟩
      rw [foldlM_insert] at folded
      exact Option.some.inj folded
    · exact absurd success (mismatch_refuses _ _ _)
  · obtain ⟨members, bindings, blanks, enclosed, rfl⟩ := given
    simp only [bindingsValue, skipBlanks_eq_cons_iff.mpr ⟨blanks, rfl⟩]
    exact (foldMembers_eq_ok_iff bindingLaw).mpr ⟨bindings, enclosed, foldlM_insert _ _⟩

theorem ofKey?_eq_some_iff {key : String} {field : Field} :
    Field.ofKey? key = some field ↔ key = field.key := by
  constructor
  · intro found
    simp only [Field.ofKey?] at found
    split at found
    · cases found; rfl
    · cases found; rfl
    · contradiction
  · rintro rfl
    cases field <;> rfl

/-- The fields behind a member: a field that has been read is not read again. -/
def Draft.accept (draft : Draft) : Contribution → Option Draft
  | .name name => if draft.name?.isSome then none else some { draft with name? := some name }
  | .bindings bindings =>
      if draft.bindings?.isSome then none
      else some { draft with bindings? := some (Table.ofList bindings) }
  | .nothing => some draft

theorem fieldValue_name_eq_ok_iff :
    fieldValue draft .name text = .ok (next, rest) ↔
      ∃ separated spelled name, Blanks text (':' :: separated) ∧
        Blanks separated ('"' :: spelled) ∧ Literal spelled name.toList rest ∧
        next = { draft with name? := some name } := by
  refine ⟨fun success => ?_, fun given => ?_⟩
  · obtain ⟨_, separated, colon, success⟩ := Reader.bind_eq_ok success
    obtain ⟨name, behind, read, success⟩ := Reader.bind_eq_ok success
    obtain ⟨same, rfl⟩ := Reader.pure_eq_ok success
    obtain ⟨spelled, space, form⟩ := nameValue_eq_ok_iff.mp read
    exact ⟨separated, spelled, name, colon_eq_ok_iff.mp colon, space, form, same.symm⟩
  · obtain ⟨separated, spelled, name, colon, space, form, rfl⟩ := given
    refine Reader.bind_eq_ok_iff.mpr ⟨_, _, colon_eq_ok_iff.mpr colon, ?_⟩
    exact Reader.bind_eq_ok_iff.mpr ⟨_, _, nameValue_eq_ok_iff.mpr ⟨_, space, form⟩, rfl⟩

theorem fieldValue_bindings_eq_ok_iff :
    fieldValue draft .bindings text = .ok (next, rest) ↔
      ∃ separated members bindings, Blanks text (':' :: separated) ∧
        Blanks separated ('{' :: members) ∧ Enclosed Binding members bindings rest ∧
        next = { draft with bindings? := some (Table.ofList bindings) } := by
  refine ⟨fun success => ?_, fun given => ?_⟩
  · obtain ⟨_, separated, colon, success⟩ := Reader.bind_eq_ok success
    obtain ⟨table, behind, read, success⟩ := Reader.bind_eq_ok success
    obtain ⟨same, rfl⟩ := Reader.pure_eq_ok success
    obtain ⟨members, bindings, space, form, rfl⟩ := bindingsValue_eq_ok_iff.mp read
    exact ⟨separated, members, bindings, colon_eq_ok_iff.mp colon, space, form, same.symm⟩
  · obtain ⟨separated, members, bindings, colon, space, form, rfl⟩ := given
    have read := bindingsValue_eq_ok_iff.mpr ⟨_, _, space, form, rfl⟩
    refine Reader.bind_eq_ok_iff.mpr ⟨_, _, colon_eq_ok_iff.mpr colon, ?_⟩
    exact Reader.bind_eq_ok_iff.mpr ⟨_, _, read, rfl⟩

theorem refuseRepeated_ne_ok {field : Field} : refuseRepeated field text ≠ .ok (next, rest) := by
  intro success
  simp only [refuseRepeated] at success
  split at success <;> cases success

theorem documentMember_sound {key spelled : List Char} {name : String}
    (blanks : Blanks text ('"' :: spelled)) (form : Literal spelled name.toList key)
    (success : documentMember name draft key = .ok (next, rest)) :
    ∃ contribution, Member text contribution rest ∧ draft.accept contribution = some next := by
  cases known : Field.ofKey? name with
  | some field =>
      cases ofKey?_eq_some_iff.mp known
      simp only [documentMember, known] at success
      by_cases present : draft.has field = true
      · rw [if_pos present] at success
        exact absurd success refuseRepeated_ne_ok
      · rw [if_neg present] at success
        cases field with
        | name =>
            obtain ⟨_, _, _, colon, space, value, rfl⟩ := fieldValue_name_eq_ok_iff.mp success
            exact ⟨_, .name (.quoted blanks form colon) space value, if_neg present⟩
        | bindings =>
            obtain ⟨_, _, _, colon, space, value, rfl⟩ := fieldValue_bindings_eq_ok_iff.mp success
            exact ⟨_, .bindings (.quoted blanks form colon) space value, if_neg present⟩
  | none =>
      simp only [documentMember, known] at success
      obtain ⟨_, separated, colon, success⟩ := Reader.bind_eq_ok success
      obtain ⟨_, behind, skipped, success⟩ := Reader.bind_eq_ok success
      obtain ⟨rfl, rfl⟩ := Reader.pure_eq_ok success
      have other : ∀ field : Field, name ≠ field.key := by
        intro field same
        rw [ofKey?_eq_some_iff.mpr same] at known
        contradiction
      exact ⟨.nothing, .other (.quoted blanks form (colon_eq_ok_iff.mp colon)) (other .name)
        (other .bindings) (blanks_skipBlanks _) (skipValue_sound skipped), rfl⟩

theorem documentMember_name {name : String} {separated spelled : List Char}
    (fresh : draft.name?.isSome = false) (colon : Blanks text (':' :: separated))
    (space : Blanks separated ('"' :: spelled)) (form : Literal spelled name.toList rest) :
    documentMember Field.name.key draft text = .ok ({ draft with name? := some name }, rest) := by
  have absent : draft.has .name = false := fresh
  simp only [documentMember, ofKey?_eq_some_iff.mpr rfl, absent, Bool.false_eq_true, if_false]
  exact fieldValue_name_eq_ok_iff.mpr ⟨_, _, _, colon, space, form, rfl⟩

theorem documentMember_bindings {bindings : List (String × UInt32)} {separated members : List Char}
    (fresh : draft.bindings?.isSome = false) (colon : Blanks text (':' :: separated))
    (space : Blanks separated ('{' :: members)) (form : Enclosed Binding members bindings rest) :
    documentMember Field.bindings.key draft text =
      .ok ({ draft with bindings? := some (Table.ofList bindings) }, rest) := by
  have absent : draft.has .bindings = false := fresh
  simp only [documentMember, ofKey?_eq_some_iff.mpr rfl, absent, Bool.false_eq_true, if_false]
  exact fieldValue_bindings_eq_ok_iff.mpr ⟨_, _, _, colon, space, form, rfl⟩

theorem documentMember_other {unknown : String} {separated : List Char}
    (unnamed : unknown ≠ Field.name.key) (unbound : unknown ≠ Field.bindings.key)
    (colon : Blanks text (':' :: separated)) (space : Blanks separated value)
    (form : Value value rest) (delimited : Delimited rest) :
    documentMember unknown draft text = .ok (draft, rest) := by
  have missed : Field.ofKey? unknown = none := by
    cases found : Field.ofKey? unknown with
    | none => rfl
    | some field =>
        have same := ofKey?_eq_some_iff.mp found
        cases field <;> contradiction
  simp only [documentMember, missed]
  refine Reader.bind_eq_ok_iff.mpr ⟨_, _, colon_eq_ok_iff.mpr colon, ?_⟩
  exact Reader.bind_eq_ok_iff.mpr ⟨_, _, skipValue_complete space form delimited, rfl⟩

theorem documentLaw : MemberLaw documentMember Member Draft.accept where
  sound success := by
    obtain ⟨name, spelled, behind, blanks, form, success⟩ := keyedMember_eq_ok_iff.mp success
    exact documentMember_sound blanks form success
  complete form delimited accepted := by
    apply keyedMember_eq_ok_iff.mpr
    cases form with
    | name key space form =>
        obtain ⟨blanks, spelled, colon⟩ := key
        simp only [Draft.accept, Option.ite_none_left_eq_some, Bool.not_eq_true] at accepted
        obtain ⟨fresh, same⟩ := accepted
        cases same
        exact ⟨_, _, _, blanks, spelled, documentMember_name fresh colon space form⟩
    | bindings key space form =>
        obtain ⟨blanks, spelled, colon⟩ := key
        simp only [Draft.accept, Option.ite_none_left_eq_some, Bool.not_eq_true] at accepted
        obtain ⟨fresh, same⟩ := accepted
        cases same
        exact ⟨_, _, _, blanks, spelled, documentMember_bindings fresh colon space form⟩
    | other key unnamed unbound space form =>
        obtain ⟨blanks, spelled, colon⟩ := key
        cases accepted
        exact ⟨_, _, _, blanks, spelled,
          documentMember_other unnamed unbound colon space form delimited⟩

end GraphicsProfile.Document
