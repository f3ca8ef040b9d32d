import GraphicsProfile.Proofs.Document.Fronts

namespace GraphicsProfile.Document

open Grammar Reader Text

variable {text members last separated literal unsigned row numeral behind rest used : List Char}
  {mark : Char} {name : String} {code : UInt32} {before : List (String × UInt32)}
  {onward : Table UInt32 → Reader Registry} {value : Int}

theorem codeValue_of_number (space : Blanks separated literal) (form : AnyNumber literal rest) :
    codeValue separated = (number >>= codeOfNumber : Reader UInt32) literal := by
  have found : skipBlanks separated = literal :=
    (Value.number form : Value literal rest).skipBlanks_eq space
  rw [codeValue, found, if_pos form.startsNumber]

theorem codeOfNumber_out_of_range (outside : value < 0 ∨ 0x100000000 ≤ value) :
    codeOfNumber (.whole value) text = .error ((Cause.codeOutOfRange value).before text) := by
  rw [codeOfNumber, if_neg (by omega)]
  rfl

theorem number_negative (form : Whole unsigned row rest) (delimited : Delimited rest)
    (positive : 1 ≤ decimalValue row) (fits : decimalValue row ≤ 0x8000000000000000) :
    number ('-' :: unsigned) = .ok (.whole (-(decimalValue row : Int)), rest) := by
  have read : magnitude true unsigned = .ok (ofSignificand true (decimalValue row), rest) :=
    magnitude_whole_complete form delimited (by rw [maxSignificand]; omega)
  rw [ofSignificand, if_neg (by simp), if_pos ⟨positive, fits⟩] at read
  exact read

theorem unsigned_of_whole (form : Whole text row rest) : Unsigned text rest :=
  .parts form .none .none

/-- A front of a number's text is cut off in front of what follows the number. -/
theorem Grammar.AnyNumber.split (form : AnyNumber text rest) (delimited : Delimited rest) :
    ∃ numeral, text = numeral ++ rest :=
  skipValue_advances.keeps (skipValue_complete .none (.number form) delimited)

/-- An object of bindings can be ended behind a code. -/
theorem remaining_of_mark (ending : Blank mark ∨ mark = ',' ∨ mark = '}')
    (rest : List Char) : ∃ more later, Remaining Binding (mark :: more) later rest := by
  rcases ending with blank | rfl | rfl
  · exact ⟨'}' :: rest, [], .close (.more blank .none)⟩
  · have zero : Code ('0' :: '}' :: rest) 0 ('}' :: rest) :=
      .whole (.digits (.last rfl) fun _ => rfl) rfl
    have key : Key ('"' :: '"' :: ':' :: '0' :: '}' :: rest) "" ('0' :: '}' :: rest) :=
      .quoted .none .close .none
    exact ⟨_, _, .next .none (.member key .none zero) (.close .none)⟩
  · exact ⟨rest, [], .close .none⟩

theorem delimited_of_ending (ending : Blank mark ∨ mark = ',' ∨ mark = '}') :
    Delimited (mark :: rest) := by
  rintro char member
  cases Option.mem_some.mp member
  rcases ending with blank | comma | brace
  · exact .inl blank
  · exact .inr (.inl comma)
  · exact .inr (.inr (.inr brace))

theorem behindCode_eq_ok_iff {registry : Registry} :
    behindCode before name onward code text = .ok (registry, rest) ↔
      ∃ later middle, Remaining Binding text later middle ∧
        onward (Table.ofList (before ++ (name, code) :: later)) middle = .ok (registry, rest) := by
  refine ⟨fun success => ?_, fun given => ?_⟩
  · obtain ⟨held, middle, read, success⟩ := bind_eq_ok success
    obtain ⟨later, remaining, folded⟩ := memberRun_sound bindingLaw read
    rw [foldlM_insert, Option.some.injEq] at folded
    refine ⟨later, middle, remaining, ?_⟩
    rw [← Table.foldl_insert_ofList, folded]
    exact success
  · obtain ⟨later, middle, remaining, success⟩ := given
    rw [← Table.foldl_insert_ofList] at success
    exact bind_eq_ok_iff.mpr
      ⟨_, _, memberRun_complete bindingLaw remaining (foldlM_insert _ later), success⟩

theorem readRegistry_eq_ok_iff_whole {registry : Registry} :
    readRegistry text = .ok registry ↔ ∃ rest, wholeDocument text = .ok (registry, rest) := by
  rw [readRegistry]
  cases wholeDocument text with
  | error fault => simp [Except.map]
  | ok result =>
      obtain ⟨held, rest⟩ := result
      simp [Except.map]

theorem load_ofList_eq_ok_iff {registry : Registry} :
    (Registry.load (String.ofList text)).value = .ok registry ↔
      ∃ rest, wholeDocument text = .ok (registry, rest) := by
  rw [load_value_eq_ok_iff, String.toList_ofList, readRegistry_eq_ok_iff_whole]

/-- The document is accepted with some texts behind the mark. With each of them the name has the
code, unless it is bound again. -/
structure Stores (used : List Char) (mark : Char) (before : List (String × UInt32)) (name : String)
    (code : UInt32) : Prop where
  goesOn : ∃ more registry,
    (Registry.load (String.ofList (used ++ mark :: more))).value = .ok registry
  stored : ∀ {more registry},
    (Registry.load (String.ofList (used ++ mark :: more))).value = .ok registry →
      ∃ later rest, Remaining Binding (mark :: more) later rest ∧
        registry.bindings = Table.ofList (before ++ (name, code) :: later) ∧
        registry.find? name = (Table.lastWritten? later name).or (some code)

/-- The document is refused because a whole number is no code. The error names the number and
stands behind its last digit. -/
def OutOfRange (document : String) (used : List Char) (number : String) : Prop :=
  ∃ error, Registry.load document = ⟨.error (.badDocument error), []⟩ ∧
    error.category.label = "data" ∧ error.position = .after (bytes used) ∧
    error.message = "invalid value: integer `" ++ number ++ "`, expected u32" ++
      " at line " ++ toString error.position.line ++ " column " ++ toString error.position.column

theorem OutOfRange.refusedWith {document number : String}
    (outside : OutOfRange document used number) :
    RefusedWith document ("invalid value: integer `" ++ number ++ "`, expected u32" ++
      " at line " ++ toString (Position.after (bytes used)).line ++
      " column " ++ toString (Position.after (bytes used)).column) := by
  obtain ⟨error, refused, _, position, message⟩ := outside
  rw [position] at message
  exact ⟨error, refused, message⟩

theorem stores_of_read {outer : List Char} (finishes : Finishes onward)
    (passes : ∀ other, wholeDocument (outer ++ other) =
      (codeValue >>= behindCode before name onward) other)
    (read : codeValue (numeral ++ mark :: behind) = .ok (code, mark :: behind))
    (ending : Blank mark ∨ mark = ',' ∨ mark = '}') :
    Stores (outer ++ numeral) mark before name code := by
  have goes : ∀ more, wholeDocument (outer ++ numeral ++ mark :: more) =
      behindCode before name onward code (mark :: more) := by
    intro more
    have framed : codeValue (numeral ++ mark :: more) = .ok (code, [] ++ mark :: more) :=
      codeValue_sequential.frame read
    rw [List.append_assoc, passes, bind_eq_of_ok framed]
    rfl
  refine ⟨?_, fun {more registry} accepted => ?_⟩
  · obtain ⟨closing, ends⟩ := finishes.ends
    obtain ⟨more, later, remaining⟩ := remaining_of_mark ending closing
    obtain ⟨registry, ended⟩ := ends (Table.ofList (before ++ (name, code) :: later))
    refine ⟨more, registry, load_ofList_eq_ok_iff.mpr ⟨[], ?_⟩⟩
    rw [goes]
    exact behindCode_eq_ok_iff.mpr ⟨later, closing, remaining, ended⟩
  · obtain ⟨rest, whole⟩ := load_ofList_eq_ok_iff.mp accepted
    rw [goes] at whole
    obtain ⟨later, middle, remaining, ended⟩ := behindCode_eq_ok_iff.mp whole
    have held := finishes.held ended
    refine ⟨later, middle, remaining, held, ?_⟩
    rw [Registry.find?, held, Table.find?_ofList_append]

theorem codeOutOfRange_description (value : Int) : (Cause.codeOutOfRange value).description =
    "invalid value: integer `" ++ toString value ++ "`, expected u32" := by
  have opening : "invalid value: integer `" = "invalid value: " ++ "integer `" := by decide
  have ending : "`, expected u32" = "`" ++ (", expected " ++ "u32") := by decide
  rw [opening, ending]
  change "invalid value: " ++ ("integer `" ++ toString value ++ "`") ++ ", expected " ++ "u32" = _
  simp only [String.append_assoc]

theorem toString_neg {value : Nat} (positive : 1 ≤ value) :
    toString (-(value : Int)) = "-" ++ toString value := by
  cases value with
  | zero => contradiction
  | succ value => rfl

section Numbers

variable {document : String} {outer : List Char} {next : UInt32 → Reader Registry}
  (split : document.toList = outer ++ separated)
  (passes : ∀ other, wholeDocument (outer ++ other) = (codeValue >>= next) other)
  (space : Blanks separated literal) (form : AnyNumber literal rest)

include split passes space form

theorem outOfRange_of_read (place : document.toList = used ++ rest)
    (read : number literal = .ok (.whole value, rest)) (outside : value < 0 ∨ 0x100000000 ≤ value) :
    OutOfRange document used (toString value) := by
  have stopped : codeValue separated = .error ((Cause.codeOutOfRange value).before rest) := by
    rw [codeValue_of_number space form, bind_eq_of_ok read, codeOfNumber_out_of_range outside]
  have whole : wholeDocument document.toList =
      .error ((Cause.codeOutOfRange value).before rest) := by
    rw [split, passes, bind_eq_of_error stopped]
  have refused := load_of_fault (readRegistry_eq_error_iff.mpr whole)
  rw [within_before place] at refused
  refine ⟨_, refused, rfl, rfl, ?_⟩
  rw [← codeOutOfRange_description]
  rfl

/-- What is read as a code is a whole number of 32 bits without sign. -/
theorem refused_of_no_code (delimited : Delimited rest)
    (noCode : ∀ row, Whole literal row rest → 4294967296 ≤ decimalValue row) :
    ∃ error, Registry.load document = ⟨.error (.badDocument error), []⟩ := by
  cases read : readRegistry document.toList with
  | error fault => exact ⟨_, load_of_fault read⟩
  | ok registry =>
      obtain ⟨left, whole⟩ := readRegistry_eq_ok_iff_whole.mp read
      rw [split, passes] at whole
      obtain ⟨code, middle, accepted, _⟩ := bind_eq_ok whole
      have value : Value literal rest := .number form
      have decided := codeValue_decided space value delimited
      rw [accepted] at decided
      have sound := codeValue_sound accepted
      rw [value.skipBlanks_eq space] at sound
      cases decided with
      | taken same =>
          cases same
          obtain ⟨whole, exact⟩ := sound
          have least := noCode _ whole
          have bound := code.toNat_lt
          omega

end Numbers

/-- Behind a document that is in order up to a number at the code of a binding, a whole number
below 2 ^ 32 is stored exactly. Other whole numbers that 64 bits hold are named in the error, and no
number is stored but those. -/
theorem load_code_exact {document : String}
    (front : Front document.toList .bindings ('{' :: members))
    (leading : Leading Binding members before last) (key : Key last name separated)
    (space : Blanks separated literal) (form : AnyNumber literal (mark :: behind))
    (ending : Blank mark ∨ mark = ',' ∨ mark = '}') :
    ∃ used, document.toList = used ++ mark :: behind ∧
      (∀ row, Whole literal row (mark :: behind) →
        (decimalValue row ≤ 4294967295 → ∃ code : UInt32, code.toNat = decimalValue row ∧
          Stores used mark before name code) ∧
        (4294967296 ≤ decimalValue row → decimalValue row ≤ 18446744073709551615 →
          OutOfRange document used (toString (decimalValue row)))) ∧
      (∀ unsigned row, literal = '-' :: unsigned → Whole unsigned row (mark :: behind) →
        1 ≤ decimalValue row → decimalValue row ≤ 9223372036854775808 →
          OutOfRange document used ("-" ++ toString (decimalValue row))) ∧
      ((∀ row, Whole literal row (mark :: behind) → 4294967296 ≤ decimalValue row) →
        ∃ error, Registry.load document = ⟨.error (.badDocument error), []⟩) := by
  have delimited : Delimited (mark :: behind) := delimited_of_ending ending
  obtain ⟨outer, onward, split, finishes, passes⟩ := codeValue_of_front front leading key
  obtain ⟨gap, rfl, _⟩ := space.exists_front
  obtain ⟨digits, rfl⟩ := form.split delimited
  have whole : gap ++ (digits ++ mark :: behind) = gap ++ digits ++ mark :: behind := by simp
  rw [whole] at split space
  have place : document.toList = outer ++ (gap ++ digits) ++ mark :: behind := by
    rw [split, ← List.append_assoc]
  refine ⟨outer ++ (gap ++ digits), place, fun row plain => ⟨fun small => ?_,
    fun large fits => ?_⟩, fun unsigned row signed plain positive fits => ?_, fun noCode => ?_⟩
  · have bound : decimalValue row < UInt32.size := Nat.lt_succ_of_le small
    have exact := UInt32.toNat_ofNat_of_lt' bound
    have read := codeValue_complete space (.whole plain exact.symm) delimited
    exact ⟨_, exact, stores_of_read finishes passes read ending⟩
  · have read := number_code_complete plain delimited fits
    have printed : toString (decimalValue row : Int) = toString (decimalValue row) := rfl
    rw [← printed]
    exact outOfRange_of_read split passes space form place read (.inr (by omega))
  · rw [signed] at space form
    have read := number_negative plain delimited positive fits
    rw [← toString_neg positive]
    exact outOfRange_of_read split passes space form place read (.inl (by omega))
  · exact refused_of_no_code split passes space form delimited noCode

theorem front_of_bindings (members : List Char) :
    Front ('{' :: fieldText .bindings ('{' :: members)) .bindings ('{' :: members) := by
  have key : Key (fieldText .bindings ('{' :: members)) Field.bindings.key ('{' :: members) := by
    rw [fieldText_eq]
    exact .quoted .none (literal_flatMap_writeChar _) .none
  exact .bindingsMember .none .none rfl ⟨Nat.zero_le 1, Nat.zero_le 1⟩ key .none

theorem load_code_exact_edges :
    (∃ code : UInt32, code.toNat = 4294967295 ∧
      Stores "\x7b\"enums\":\x7b\"a\":4294967295".toList '}' [] "a" code) ∧
    RefusedWith "\x7b\"enums\":\x7b\"a\":4294967296\x7d\x7d"
      "invalid value: integer `4294967296`, expected u32 at line 1 column 24" ∧
    RefusedWith "\x7b\"enums\":\x7b\"a\":-1\x7d\x7d"
      "invalid value: integer `-1`, expected u32 at line 1 column 16" ∧
    ∃ error, Registry.load "\x7b\"enums\":\x7b\"a\":18446744073709551616\x7d\x7d" =
      ⟨.error (.badDocument error), []⟩ := by
  have front : ∀ numeral : String,
      Front ("\x7b\"enums\":\x7b\"a\":" ++ numeral ++ "\x7d\x7d").toList .bindings
        ('{' :: '"' :: 'a' :: '"' :: ':' :: (numeral ++ "\x7d\x7d").toList) := by
    intro numeral
    have place := front_of_bindings ('"' :: 'a' :: '"' :: ':' :: (numeral ++ "\x7d\x7d").toList)
    rw [fieldText_bindings] at place
    simpa using place
  have key : ∀ rest, Key ('"' :: 'a' :: '"' :: ':' :: rest) "a" rest := fun rest =>
    .quoted .none (.piece (.plain (by decide) (by decide) (by decide)) .close) .none
  have greatest : Whole "4294967295\x7d\x7d".toList "4294967295".toList "\x7d\x7d".toList :=
    integerDigits_sound rfl
  have next : Whole "4294967296\x7d\x7d".toList "4294967296".toList "\x7d\x7d".toList :=
    integerDigits_sound rfl
  have one : Whole "1\x7d\x7d".toList "1".toList "\x7d\x7d".toList := integerDigits_sound rfl
  have huge : Whole "18446744073709551616\x7d\x7d".toList "18446744073709551616".toList
      "\x7d\x7d".toList := integerDigits_sound rfl
  obtain ⟨used, split, stored, _⟩ := load_code_exact (front "4294967295") .none (key _) .none
    (.plain (unsigned_of_whole greatest)) (.inr (.inr rfl))
  obtain ⟨used', split', refused, _⟩ := load_code_exact (front "4294967296") .none (key _) .none
    (.plain (unsigned_of_whole next)) (.inr (.inr rfl))
  obtain ⟨below, split'', _, negative, _⟩ := load_code_exact (front "-1") .none (key _) .none
    (.negative (unsigned_of_whole one)) (.inr (.inr rfl))
  obtain ⟨_, _, _, _, noCode⟩ := load_code_exact (front "18446744073709551616") .none (key _) .none
    (.plain (unsigned_of_whole huge)) (.inr (.inr rfl))
  have same : "\x7b\"enums\":\x7b\"a\":4294967295".toList = used :=
    List.append_cancel_right split
  have same' : "\x7b\"enums\":\x7b\"a\":4294967296".toList = used' :=
    List.append_cancel_right split'
  have same'' : "\x7b\"enums\":\x7b\"a\":-1".toList = below := List.append_cancel_right split''
  subst same same' same''
  have above := ((refused _ next).2 (by decide) (by decide)).refusedWith
  have under := (negative _ _ rfl one (by decide) (by decide)).refusedWith
  refine ⟨(stored _ greatest).1 (by decide), above, under, noCode ?_⟩
  rintro row ⟨digits, _⟩
  have whole : "18446744073709551616".toList = row := List.append_cancel_right digits.split.1
  subst whole
  decide

end GraphicsProfile.Document
