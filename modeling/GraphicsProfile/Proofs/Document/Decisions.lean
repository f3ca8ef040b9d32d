import GraphicsProfile.Proofs.Document.Sequential.Documents

/-! Where a whole value stands, the readers of values come to a decision: they take the value up to
its end, or they refuse it for what it is. They do not stop for want of text, although a literal
that is kept is read by other rules than the grammar of any value has. -/

namespace GraphicsProfile.Document

open Grammar Reader

variable {α β σ : Type} {text value middle behind rest : List Char}

/-- A value has been taken, and what is left is as it should be, or the text was refused for another
reason than want of text. -/
inductive Decided (leaves : α → List Char → Prop) : Except Fault (α × List Char) → Prop where
  | taken {value : α} {rest : List Char} (left : leaves value rest) :
      Decided leaves (.ok (value, rest))
  | refused {cause : Cause} {left : Nat} (given : cause.category ≠ .truncated) :
      Decided leaves (.error ⟨cause, left⟩)

/-- What is left is the given text. -/
def Leaving (rest : List Char) (_ : α) (left : List Char) : Prop :=
  left = rest

/-- A round of a run leaves the last text when it ends the run, and goes on from a place inside. -/
def Round (last inside : List Char → Prop) : Option σ → List Char → Prop
  | none, left => last left
  | some _, left => inside left

namespace Decided

variable {reader : Reader α} {leaves : β → List Char → Prop}

theorem bind {between : α → List Char → Prop} {next : α → Reader β}
    (first : Decided between (reader text))
    (second : ∀ {value middle}, between value middle → Decided leaves (next value middle)) :
    Decided leaves ((reader >>= next) text) := by
  cases read : reader text with
  | error fault =>
      rw [read] at first
      cases first with
      | refused given =>
          rw [bind_eq_of_error read]
          exact .refused given
  | ok result =>
      obtain ⟨value, middle⟩ := result
      rw [read] at first
      cases first with
      | taken left =>
          rw [bind_eq_of_ok read]
          exact second left

theorem map {change : α → β}
    (decided : Decided (fun value rest => leaves (change value) rest) (reader text)) :
    Decided leaves ((change <$> reader) text) := by
  rw [map_eq_pure_bind]
  exact decided.bind fun left => .taken left

theorem mono {fewer : β → List Char → Prop} {outcome : Except Fault (β × List Char)}
    (decided : Decided fewer outcome)
    (included : ∀ {value rest}, fewer value rest → leaves value rest) : Decided leaves outcome := by
  cases decided with
  | taken left => exact .taken (included left)
  | refused given => exact .refused given

theorem run {step : σ → Reader (Option σ)} {progress : Progresses step} {state : σ}
    {last inside : List Char → Prop}
    (each : ∀ state {text}, inside text → Decided (Round last inside) (step state text))
    (start : inside text) :
    Decided (fun _ left => last left) (Reader.run step progress state text) := by
  fun_induction Reader.run step progress state text with
  | case1 state text fault stopped =>
      have round := each state start
      rw [stopped] at round
      cases round with
      | refused given => exact .refused given
  | case2 state text rest ended =>
      have round := each state start
      rw [ended] at round
      cases round with
      | taken left => exact .taken left
  | case3 state text next middle continued ih =>
      have round := each state start
      rw [continued] at round
      cases round with
      | taken onward => exact ih onward

end Decided

section Literals

theorem pairMark_of_ne {char expected : Char} (other : char ≠ expected) :
    pairMark expected (char :: text) =
      .error (Cause.halfSurrogatePair.behindByte (char :: text)) := by
  rw [pairMark, if_neg other]

/-- The second half of a surrogate pair is the next piece of a literal that is not decoded. -/
theorem surrogatePartner_decided (unit : Nat) (form : LooseLiteral text rest) :
    Decided (fun _ left => LooseLiteral left rest) ((do
      pairMark '\\'
      pairMark 'u'
      let partner ← fourHexDigits
      if isTrailingSurrogate partner then
        pure (ofSurrogates unit partner)
      else
        stop .loneSurrogate : Reader Char) text) := by
  have half : Cause.halfSurrogatePair.category ≠ .truncated := by decide
  cases form with
  | close =>
      rw [bind_eq_of_error (pairMark_of_ne (by decide))]
      exact .refused half
  | piece first later =>
      cases first with
      | plain _ noEscape _ =>
          rw [bind_eq_of_error (pairMark_of_ne noEscape)]
          exact .refused half
      | @short mark _ _ known =>
          have notCodePoint : mark ≠ 'u' := by
            rintro rfl
            contradiction
          rw [bind_eq_of_ok (pairMark_eq_ok_iff.mpr rfl),
            bind_eq_of_error (pairMark_of_ne notCodePoint)]
          exact .refused half
      | codePoint written =>
          -- A pair takes two pieces, and the literal goes on behind the second one.
          rw [bind_eq_of_ok (pairMark_eq_ok_iff.mpr rfl),
            bind_eq_of_ok (pairMark_eq_ok_iff.mpr rfl),
            bind_eq_of_ok (fourHexDigits_eq_ok_iff.mpr written), ite_text]
          split
          · exact .taken later
          · exact .refused (by decide)

theorem codePointEscape_decided {unit : Nat} (written : HexQuad text unit middle)
    (later : LooseLiteral middle rest) :
    Decided (fun _ left => LooseLiteral left rest) (codePointEscape text) := by
  rw [codePointEscape, bind_eq_of_ok (fourHexDigits_eq_ok_iff.mpr written), ite_text, ite_text]
  split
  · exact .refused (by decide)
  · split
    · exact surrogatePartner_decided unit later
    · exact .taken later

theorem literalStep_decided (decoded : String) (form : LooseLiteral text rest) :
    Decided (Round (· = rest) (LooseLiteral · rest)) (literalStep decoded text) := by
  cases form with
  | close => exact .taken rfl
  | piece first later =>
      cases first with
      | plain noQuote noEscape noControl =>
          rw [literalStep_eq_some_iff.mpr ⟨_, .plain noQuote noEscape noControl, rfl⟩]
          exact .taken later
      | short known =>
          rw [literalStep_eq_some_iff.mpr ⟨_, .short known, rfl⟩]
          exact .taken later
      | codePoint written =>
          have decided : Decided (Round (· = rest) (LooseLiteral · rest))
              (((fun char => some (decoded.push char)) <$> codePointEscape : Reader _) _) :=
            (codePointEscape_decided written later).map
          exact decided

theorem literal_decided (form : LooseLiteral text rest) :
    Decided (Leaving rest) (literal text) :=
  .run (fun decoded _ form => literalStep_decided decoded form) form

end Literals

section Numbers

theorem Grammar.Exponent.noPoint (form : Exponent ('.' :: text) rest) (delimited : Delimited rest) :
    False := by
  cases form with
  | none => exact absurd delimited.noContinuation (by simp [continuesReal])
  | digits marked _ _ => rcases marked with marked | marked <;> contradiction

theorem fractionPart_decided (number : Scientific) (form : Fraction text behind)
    (exponent : Exponent behind rest) (delimited : Delimited rest) :
    Decided (Leaving behind) (fractionPart number text) := by
  cases form with
  | none =>
      unfold fractionPart
      split
      · exact (exponent.noPoint delimited).elim
      · exact .taken rfl
  | @digits text _ _ row =>
      have decided : Decided (Leaving behind)
          ((number.appendFraction <$> digits : Reader Scientific) text) := by
        rw [map_text, digits_complete row (exponent.noDigit delimited)]
        exact .taken rfl
      exact decided

theorem exponentDigits_decided (number : Scientific) {unsigned row : List Char}
    (sign : Sign text unsigned) (form : Digits unsigned row rest) (delimited : Delimited rest) :
    Decided (Leaving rest) (exponentDigits number text) := by
  have signed := exponentSign_complete sign form
  have read := digits_complete form delimited.noDigit
  rw [← signed] at read
  change Decided _ ((digits >>= raiseExponent number (exponentSign text).1) (exponentSign text).2)
  rw [bind_eq_of_ok read]
  rcases raiseExponent_cases number (exponentSign text).1 row with
    ⟨raised, given⟩ | ⟨fits, digit, surplus, split, stopped⟩
  · rw [given]
    exact .taken rfl
  · rw [split, stopped]
    exact .refused (by decide)

theorem exponentPart_decided (number : Scientific) (form : Exponent text rest)
    (delimited : Delimited rest) : Decided (Leaving rest) (exponentPart number text) := by
  cases form with
  | none =>
      cases text with
      | nil => exact .taken rfl
      | cons mark text =>
          have unmarked := delimited.noContinuation
          simp only [continuesReal, Bool.or_eq_false_iff] at unmarked
          rw [exponentPart, unmarked.2]
          exact .taken rfl
  | @digits mark _ _ _ _ marked sign row =>
      have isMark : isExponentMark mark = true := by
        simpa [isExponentMark] using marked
      rw [exponentPart, if_pos isMark]
      exact exponentDigits_decided number sign row delimited

theorem realNumber_decided (negative : Bool) (number : Scientific) (text : List Char) :
    Decided (Leaving text) (realNumber negative number text) := by
  unfold realNumber
  cases number.toFloat? with
  | some value => exact .taken rfl
  | none => exact .refused (by decide)

theorem realParts_decided (negative : Bool) (whole : Scientific) (fraction : Fraction text behind)
    (exponent : Exponent behind rest) (delimited : Delimited rest) :
    Decided (Leaving rest) (realParts negative whole text) := by
  refine (fractionPart_decided whole fraction exponent delimited).bind fun {decimal _} same => ?_
  subst same
  refine (exponentPart_decided decimal exponent delimited).bind fun {number _} same => ?_
  subst same
  exact realNumber_decided negative number _

theorem behindWhole_decided (negative : Bool) (whole : Scientific)
    (fraction : Fraction text behind) (exponent : Exponent behind rest)
    (delimited : Delimited rest) : Decided (Leaving rest) (behindWhole negative whole text) := by
  unfold behindWhole
  split
  · exact realParts_decided negative whole fraction exponent delimited
  · rename_i plain
    refine .taken ?_
    cases fraction with
    | digits _ => exact absurd rfl plain
    | none =>
        cases exponent with
        | none => rfl
        | digits marked _ _ =>
            refine absurd ?_ plain
            rcases marked with rfl | rfl <;> rfl

theorem magnitude_decided (negative : Bool) (form : Unsigned text rest)
    (delimited : Delimited rest) : Decided (Leaving rest) (magnitude negative text) := by
  cases form with
  | parts whole fraction exponent =>
      rw [magnitude_eq, bind_eq_of_ok
        (integerDigits_complete whole (fraction.noDigit exponent delimited)), ite_text]
      split
      · exact behindWhole_decided negative _ fraction exponent delimited
      · exact realParts_decided negative _ fraction exponent delimited

theorem Grammar.Unsigned.startsWithDigit (form : Unsigned text rest) :
    ∃ digit more, text = digit :: more ∧ digit.isDigit = true := by
  cases form with
  | parts whole _ _ =>
      obtain ⟨row, _⟩ := whole
      have starts := row.startsWithDigit
      cases text with
      | nil => contradiction
      | cons digit more => exact ⟨digit, more, rfl, starts⟩

theorem Grammar.AnyNumber.starts (form : AnyNumber text rest) :
    ∃ first more, text = first :: more ∧ (first = '-' ∨ first.isDigit = true) := by
  cases form with
  | plain unsigned =>
      obtain ⟨digit, more, rfl, decimal⟩ := unsigned.startsWithDigit
      exact ⟨digit, more, rfl, .inr decimal⟩
  | negative unsigned => exact ⟨'-', _, rfl, .inl rfl⟩

/-- A number is refused only if it is too large. -/
theorem number_decided (form : AnyNumber text rest) (delimited : Delimited rest) :
    Decided (Leaving rest) (number text) := by
  cases form with
  | negative unsigned => exact magnitude_decided true unsigned delimited
  | plain unsigned =>
      obtain ⟨digit, more, rfl, decimal⟩ := unsigned.startsWithDigit
      have noSign : digit ≠ '-' := ne_of_digit decimal rfl
      have same : number (digit :: more) = magnitude false (digit :: more) := by
        simp [number, noSign]
      rw [same]
      exact magnitude_decided false unsigned delimited

end Numbers

section Values

theorem Grammar.AnyNumber.startsNumber (form : AnyNumber text rest) :
    startsNumber text = true := by
  obtain ⟨first, more, rfl, start⟩ := form.starts
  simpa [Document.startsNumber] using start

/-- A value starts with a character that is no blank and closes no list. -/
theorem Grammar.Value.starts (form : Value text rest) :
    ∃ first more, text = first :: more ∧ isBlank first = false ∧ first ≠ ']' := by
  cases form with
  | number form =>
      obtain ⟨first, more, rfl, rfl | decimal⟩ := form.starts
      · exact ⟨_, _, rfl, rfl, by decide⟩
      · exact ⟨_, _, rfl, visible_of_digit decimal, ne_of_digit decimal rfl⟩
  | _ => exact ⟨_, _, rfl, rfl, by decide⟩

theorem Grammar.Value.skipBlanks_eq (form : Value value rest) (blanks : Blanks text value) :
    skipBlanks text = value := by
  obtain ⟨first, more, rfl, visible, _⟩ := form.starts
  exact skipBlanks_eq_cons_iff.mpr ⟨blanks, visible⟩

theorem looseLiteral_of_value (form : Value ('"' :: text) rest) : LooseLiteral text rest := by
  cases form with
  | literal form => exact form
  | number form =>
      have starts := form.startsNumber
      contradiction

theorem number_of_value (form : Value text rest) (starts : startsNumber text = true) :
    AnyNumber text rest := by
  cases form with
  | number form => exact form
  | _ => contradiction

theorem owed_of_value (form : Value ('{' :: text) rest) : Owed true .object text rest := by
  cases form with
  | emptyObject blanks => exact .close blanks
  | object members => exact .first members
  | number form =>
      have starts := form.startsNumber
      contradiction

theorem foundValue_of_number (starts : startsNumber text = true) :
    foundValue text = (Number.found <$> number : Reader Found) text := by
  unfold foundValue
  split <;> simp_all [startsNumber]

/-- What kind of value stands there can be told. How much of it has been taken does not matter. -/
theorem foundValue_decided (form : Value text rest) (delimited : Delimited rest) :
    Decided (fun _ _ => True) (foundValue text) := by
  cases form with
  | number form =>
      rw [foundValue_of_number form.startsNumber]
      exact .map <| (number_decided form delimited).mono fun _ => trivial
  | literal form => exact .map <| (literal_decided form).mono fun _ => trivial
  | _ => exact .taken trivial

theorem mismatch_decided {leaves : α → List Char → Prop} (place : Place) (form : Value text rest)
    (delimited : Delimited rest) : Decided leaves (mismatch place text) :=
  (foundValue_decided form delimited).bind fun _ => .refused (by simp [Cause.category])

theorem nameValue_decided (blanks : Blanks text value) (form : Value value rest)
    (delimited : Delimited rest) : Decided (Leaving rest) (nameValue text) := by
  simp only [nameValue, form.skipBlanks_eq blanks]
  split
  · exact literal_decided (looseLiteral_of_value form)
  · exact mismatch_decided .name form delimited

theorem codeOfNumber_decided (number : Number) (text : List Char) :
    Decided (Leaving text) (codeOfNumber number text) := by
  unfold codeOfNumber
  split
  · rw [ite_text]
    split
    · exact .taken rfl
    · exact .refused (by simp [Cause.category])
  · exact .refused (by simp [Cause.category])

theorem codeValue_decided (blanks : Blanks text value) (form : Value value rest)
    (delimited : Delimited rest) : Decided (Leaving rest) (codeValue text) := by
  simp only [codeValue, form.skipBlanks_eq blanks]
  split
  · rename_i starts
    refine (number_decided (number_of_value form starts) delimited).bind fun {number _} same => ?_
    subst same
    exact codeOfNumber_decided number _
  · exact mismatch_decided .code form delimited

end Values

section Members

variable {member : String → σ → Reader σ} {keeps : ∀ key state, Keeps (member key state)}
  {state : σ} {key colon separated later : List Char}

theorem firstKey_of_quote (blanks : Blanks text ('"' :: key)) :
    firstKey text = (some <$> openKey : Reader (Option String)) ('"' :: key) := by
  simp only [firstKey, skipBlanks_eq_cons_iff.mpr ⟨blanks, rfl⟩]
  rfl

theorem nextKey_of_comma (comma : Blanks text (',' :: later))
    (blanks : Blanks later ('"' :: key)) :
    nextKey text = (some <$> openKey : Reader (Option String)) ('"' :: key) := by
  simp only [nextKey, skipBlanks_eq_cons_iff.mpr ⟨comma, rfl⟩,
    skipBlanks_eq_cons_iff.mpr ⟨blanks, rfl⟩]
  rfl

theorem keyedMember_of_quote (blanks : Blanks text ('"' :: key)) :
    keyedMember member state text =
      (openKey >>= fun key => member key state : Reader σ) ('"' :: key) := by
  rw [keyedMember, skipBlanks_eq_cons_iff.mpr ⟨blanks, rfl⟩]

/-- An object that is not empty is read from its first member on. -/
theorem foldMembers_of_quote (blanks : Blanks text ('"' :: key)) :
    foldMembers member keeps state text =
      (keyedMember member state >>=
        run (memberStep member) (memberStep_progresses keeps)) text := by
  rw [foldMembers, bind_eq_of_eq (firstKey_of_quote blanks), bind_map_left,
    bind_eq_of_eq (keyedMember_of_quote blanks), bind_assoc]

/-- A comma introduces the next member. -/
theorem memberStep_of_comma (comma : Blanks text (',' :: later))
    (blanks : Blanks later ('"' :: key)) :
    memberStep member state text =
      (some <$> keyedMember member state : Reader (Option σ)) later := by
  rw [memberStep, bind_eq_of_eq (nextKey_of_comma comma blanks), bind_map_left,
    map_eq_pure_bind some (keyedMember member state),
    bind_eq_of_eq (keyedMember_of_quote blanks), bind_assoc]
  simp only [map_eq_pure_bind]

theorem item_of_members (members : Members text rest) :
    ∃ behind, Item .object text behind ∧ Owed false .object behind rest := by
  cases members with
  | last before name around space form after =>
      exact ⟨_, .member before name around space form, .close after⟩
  | more before name around space form after others =>
      exact ⟨_, .member before name around space form, .next after others⟩

theorem Owed.delimited (owed : Owed false .object text rest) : Delimited text := by
  cases owed with
  | close blanks => exact blanks.delimited (.inr (.inr rfl))
  | next comma _ => exact comma.delimited (.inl rfl)

theorem Item.quote (item : Item .object text rest) : ∃ key, Blanks text ('"' :: key) := by
  cases item with
  | member before _ _ _ _ => exact ⟨_, before⟩

variable (each : ∀ key state {text separated value rest}, Blanks text (':' :: separated) →
  Blanks separated value → Value value rest → Delimited rest →
    Decided (Leaving rest) (member key state text))

include each

theorem keyedMember_decided (item : Item .object text rest) (delimited : Delimited rest) :
    Decided (Leaving rest) (keyedMember member state text) := by
  cases item with
  | @member _ literal colon _ _ _ before name around space form =>
      rw [keyedMember_of_quote before]
      have opened : Decided (Leaving colon) (openKey ('"' :: literal)) := literal_decided name
      refine opened.bind fun {key _} same => ?_
      subst same
      exact each key state around space form delimited

theorem memberStep_decided (state : σ) (owed : Owed false .object text rest) :
    Decided (Round (· = rest) (Owed false .object · rest)) (memberStep member state text) := by
  cases owed with
  | close blanks =>
      rw [memberStep_eq_none_iff.mpr blanks]
      exact .taken rfl
  | next comma members =>
      obtain ⟨behind, item, owed⟩ := item_of_members members
      obtain ⟨key, before⟩ := item.quote
      rw [memberStep_of_comma comma before]
      refine .map <| (keyedMember_decided each item owed.delimited).mono fun same => ?_
      exact same ▸ owed

/-- An object is decided if its members are. -/
theorem foldMembers_decided (owed : Owed true .object text rest) :
    Decided (Leaving rest) (foldMembers member keeps state text) := by
  cases owed with
  | close blanks =>
      rw [foldMembers, bind_eq_of_ok (firstKey_eq_none_iff.mpr blanks)]
      exact .taken rfl
  | first members =>
      obtain ⟨behind, item, owed⟩ := item_of_members members
      obtain ⟨key, before⟩ := item.quote
      rw [foldMembers_of_quote before]
      refine (keyedMember_decided each item owed.delimited).bind fun same => ?_
      exact .run (fun state _ => memberStep_decided each state) (same ▸ owed)

end Members

theorem bindingMember_decided (name : String) (bindings : Table UInt32) {separated : List Char}
    (around : Blanks text (':' :: separated)) (space : Blanks separated value)
    (form : Value value rest) (delimited : Delimited rest) :
    Decided (Leaving rest) (bindingMember name bindings text) := by
  rw [bindingMember, bind_eq_of_ok (colon_eq_ok_iff.mpr around)]
  exact (codeValue_decided space form delimited).bind fun same => .taken same

theorem bindingsValue_decided (blanks : Blanks text value) (form : Value value rest)
    (delimited : Delimited rest) : Decided (Leaving rest) (bindingsValue text) := by
  simp only [bindingsValue, form.skipBlanks_eq blanks]
  split
  · exact foldMembers_decided (fun name bindings _ _ _ _ => bindingMember_decided name bindings)
      (owed_of_value form)
  · exact mismatch_decided .bindings form delimited

end GraphicsProfile.Document
