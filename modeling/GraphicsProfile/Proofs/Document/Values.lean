import GraphicsProfile.Document.Skipping
import GraphicsProfile.Proofs.Document.Literals
import GraphicsProfile.Proofs.Document.Numbers

/-! Passing over a value: the stack of open brackets against the grammar of nested values.

Soundness goes backwards through a run. The text behind a round closes the brackets that are open
then, and the round itself accounts for one member more. Completeness follows a derivation: a
member is passed over in a few rounds, and the run behind it stands where it would have stood had
the member not been there. -/

namespace GraphicsProfile.Document

open Grammar

variable {text value middle behind rest : List Char} {bracket : Bracket} {outer : List Bracket}

def Bracket.opening : Bracket → Char
  | list => '['
  | object => '{'

/-- The members of a bracket that is not empty, through the closing mark. -/
def Body : Bracket → List Char → List Char → Prop
  | .list => Elements
  | .object => Members

/-- One member of a bracket. -/
inductive Item : Bracket → List Char → List Char → Prop where
  | element {text value rest : List Char} (before : Blanks text value)
      (element : Value value rest) : Item .list text rest
  | member {text key colon separated value rest : List Char} (before : Blanks text ('"' :: key))
      (name : LooseLiteral key colon) (around : Blanks colon (':' :: separated))
      (space : Blanks separated value) (member : Value value rest) : Item .object text rest

/-- What an open bracket still demands, with or without a member in front. -/
inductive Owed : Bool → Bracket → List Char → List Char → Prop where
  | close {fresh : Bool} {bracket : Bracket} {text rest : List Char}
      (blanks : Blanks text (bracket.closing :: rest)) : Owed fresh bracket text rest
  | first {bracket : Bracket} {text rest : List Char} (body : Body bracket text rest) :
      Owed true bracket text rest
  | next {bracket : Bracket} {text later rest : List Char} (comma : Blanks text (',' :: later))
      (body : Body bracket later rest) : Owed false bracket text rest

/-- The text up to the rest closes every open bracket. -/
def Closes : Bool → List Bracket → List Char → List Char → Prop
  | _, [], text, rest => text = rest
  | fresh, bracket :: outer, text, rest =>
      ∃ behind, Owed fresh bracket text behind ∧ Closes false outer behind rest

theorem body_of_item (item : Item bracket text behind) (owed : Owed false bracket behind rest) :
    Body bracket text rest := by
  cases item with
  | element before element =>
      cases owed with
      | close blanks => exact .last before element blanks
      | next comma body => exact .more before element comma body
  | member before name around space member =>
      cases owed with
      | close blanks => exact .last before name around space member blanks
      | next comma body => exact .more before name around space member comma body

theorem value_of_owed (owed : Owed true bracket text rest) :
    Value (bracket.opening :: text) rest := by
  cases bracket with
  | list =>
      cases owed with
      | close blanks => exact .emptyList blanks
      | first body => exact .list body
  | object =>
      cases owed with
      | close blanks => exact .emptyObject blanks
      | first body => exact .object body

theorem skipScalar_sound (success : skipScalar text = .ok ((), rest)) : Value text rest := by
  simp only [skipScalar] at success
  split at success
  · cases success
  · exact .literal (skipLiteral_eq_ok_iff.mp success)
  · rw [word_eq_ok_iff.mp success]
    exact .null
  · rw [word_eq_ok_iff.mp success]
    exact .yes
  · rw [word_eq_ok_iff.mp success]
    exact .no
  · exact .number (.negative (skipMagnitude_sound success))
  · split at success
    · exact .number (.plain (skipMagnitude_sound success))
    · cases success

theorem skipOpening_none_sound (success : skipOpening text = .ok (none, rest)) :
    Value (skipBlanks text) rest := by
  simp only [skipOpening] at success
  split at success
  · cases success
  · cases success
  · obtain ⟨_, read, returned⟩ := Reader.except_bind_eq_ok success
    cases returned
    exact skipScalar_sound read

theorem skipOpening_some_sound (success : skipOpening text = .ok (some bracket, rest)) :
    skipBlanks text = bracket.opening :: rest := by
  simp only [skipOpening] at success
  split at success
  · rename_i found
    cases success
    exact found
  · rename_i found
    cases success
    exact found
  · obtain ⟨_, _, returned⟩ := Reader.except_bind_eq_ok success
    cases returned

/-- The nesting behind an opening that a member starts with. -/
def entered (outer : List Bracket) : Option Bracket → Nesting
  | none => ⟨false, outer⟩
  | some inner => ⟨true, inner :: outer⟩

theorem skipOpening_sound {opened : Option Bracket}
    (success : skipOpening text = .ok (opened, middle))
    (closes : Closes (entered outer opened).fresh (entered outer opened).brackets middle rest) :
    ∃ behind, Value (skipBlanks text) behind ∧ Closes false outer behind rest := by
  cases opened with
  | none => exact ⟨middle, skipOpening_none_sound success, closes⟩
  | some inner =>
      obtain ⟨behind, owed, closes⟩ := closes
      refine ⟨behind, ?_, closes⟩
      rw [skipOpening_some_sound success]
      exact value_of_owed owed

theorem skipMember_eq_ok_iff {next : Nesting} :
    skipMember bracket outer text = .ok (next, rest) ↔
      ∃ introduced opened, skipIntroduction bracket text = .ok ((), introduced) ∧
        skipOpening introduced = .ok (opened, rest) ∧ next = entered (bracket :: outer) opened := by
  refine ⟨fun success => ?_, fun given => ?_⟩
  · obtain ⟨_, introduced, introduction, success⟩ := Reader.bind_eq_ok success
    obtain ⟨opened, behind, opening, success⟩ := Reader.bind_eq_ok success
    refine ⟨introduced, opened, introduction, ?_⟩
    cases opened with
    | none =>
        obtain ⟨rfl, rfl⟩ := Reader.pure_eq_ok success
        exact ⟨opening, rfl⟩
    | some inner =>
        obtain ⟨rfl, rfl⟩ := Reader.pure_eq_ok success
        exact ⟨opening, rfl⟩
  · obtain ⟨introduced, opened, introduction, opening, rfl⟩ := given
    refine Reader.bind_eq_ok_iff.mpr ⟨_, _, introduction, ?_⟩
    refine Reader.bind_eq_ok_iff.mpr ⟨_, _, opening, ?_⟩
    cases opened <;> rfl

theorem skipKey_sound (success : skipKey text = .ok ((), rest)) :
    ∃ key, Blanks text ('"' :: key) ∧ LooseLiteral key rest := by
  simp only [skipKey] at success
  split at success
  · cases success
  · rename_i key found
    exact ⟨key, (skipBlanks_eq_cons_iff.mp found).1, skipLiteral_eq_ok_iff.mp success⟩
  · cases success

theorem skipMember_sound {next : Nesting}
    (success : skipMember bracket outer text = .ok (next, middle))
    (closes : Closes next.fresh next.brackets middle rest) :
    ∃ behind, Item bracket text behind ∧ Closes false (bracket :: outer) behind rest := by
  obtain ⟨introduced, opened, introduction, opening, rfl⟩ := skipMember_eq_ok_iff.mp success
  obtain ⟨behind, value, closes⟩ := skipOpening_sound opening closes
  refine ⟨behind, ?_, closes⟩
  cases bracket with
  | list =>
      cases introduction
      exact .element (blanks_skipBlanks _) value
  | object =>
      obtain ⟨_, separated, key, colon⟩ := Reader.bind_eq_ok introduction
      obtain ⟨key, before, name⟩ := skipKey_sound key
      exact .member before name (colon_eq_ok_iff.mp colon) (blanks_skipBlanks _) value

theorem Item.behind_blanks (blanks : Blanks text middle) (item : Item bracket middle rest) :
    Item bracket text rest := by
  cases item with
  | element before element => exact .element (blanks.trans before) element
  | member before name around space member =>
      exact .member (blanks.trans before) name around space member

theorem skipStep_sound {nesting next : Nesting}
    (success : skipStep nesting text = .ok (some next, middle))
    (closes : Closes next.fresh next.brackets middle rest) :
    Closes nesting.fresh nesting.brackets text rest := by
  obtain ⟨fresh, brackets⟩ := nesting
  cases brackets with
  | nil => cases success
  | cons bracket outer =>
      have blanks := blanks_skipBlanks text
      simp only [skipStep] at success
      split at success
      · cases success
      · rename_i char tail found
        rw [found] at blanks
        split at success
        · rename_i closing
          cases success
          rw [closing] at blanks
          exact ⟨middle, .close blanks, closes⟩
        · split at success
          · rename_i isFresh
            obtain ⟨_, read, same⟩ := Reader.map_eq_ok_iff.mp success
            cases same
            obtain ⟨_, item, behind, owed, closes⟩ := skipMember_sound read closes
            refine ⟨behind, ?_, closes⟩
            rw [isFresh]
            exact .first (body_of_item (item.behind_blanks blanks) owed)
          · rename_i notFresh
            split at success
            · rename_i comma
              obtain ⟨_, read, same⟩ := Reader.map_eq_ok_iff.mp success
              cases same
              obtain ⟨_, item, behind, owed, closes⟩ := skipMember_sound read closes
              refine ⟨behind, ?_, closes⟩
              rw [comma] at blanks
              rw [Bool.eq_false_iff.mpr notFresh]
              exact .next blanks (body_of_item item owed)
            · cases success

theorem skipStep_eq_none_iff {nesting : Nesting} :
    skipStep nesting text = .ok (none, rest) ↔ nesting.brackets = [] ∧ text = rest := by
  obtain ⟨fresh, brackets⟩ := nesting
  cases brackets with
  | nil => simp [skipStep]
  | cons bracket outer =>
      simp only [skipStep, reduceCtorEq, false_and, iff_false]
      intro ended
      split at ended
      · cases ended
      · split at ended
        · cases ended
        · split at ended
          · obtain ⟨_, _, same⟩ := Reader.map_eq_ok_iff.mp ended
            cases same
          · split at ended
            · obtain ⟨_, _, same⟩ := Reader.map_eq_ok_iff.mp ended
              cases same
            · cases ended

theorem skipRun_sound {nesting final : Nesting}
    (success : Reader.run skipStep skipStep_progresses nesting text = .ok (final, rest)) :
    Closes nesting.fresh nesting.brackets text rest := by
  fun_induction Reader.run skipStep skipStep_progresses nesting text with
  | case1 => contradiction
  | case2 nesting text behind ended =>
      obtain ⟨fresh, brackets⟩ := nesting
      obtain ⟨rfl, rfl⟩ := skipStep_eq_none_iff.mp ended
      cases success
      rfl
  | case3 nesting text next middle continued ih => exact skipStep_sound continued (ih success)

theorem skipValue_sound (success : skipValue text = .ok ((), rest)) :
    Value (skipBlanks text) rest := by
  obtain ⟨opened, behind, opening, success⟩ := Reader.bind_eq_ok success
  cases opened with
  | none =>
      obtain ⟨_, rfl⟩ := Reader.pure_eq_ok success
      exact skipOpening_none_sound opening
  | some bracket =>
      obtain ⟨final, ended, run, success⟩ := Reader.bind_eq_ok success
      have closes : Closes false [] ended rest := (Reader.pure_eq_ok success).2
      obtain ⟨_, owed, same⟩ := skipRun_sound run
      cases same
      cases closes
      rw [skipOpening_some_sound opening]
      exact value_of_owed owed

theorem skipOpening_skipBlanks (text : List Char) :
    skipOpening (skipBlanks text) = skipOpening text := by
  unfold skipOpening
  rw [skipBlanks_idem]

theorem skipMember_skipBlanks {next : Nesting}
    (success : skipMember bracket outer text = .ok (next, rest)) :
    skipMember bracket outer (skipBlanks text) = .ok (next, rest) := by
  obtain ⟨introduced, opened, introduction, opening, rfl⟩ := skipMember_eq_ok_iff.mp success
  cases bracket with
  | list =>
      cases introduction
      have again := (skipOpening_skipBlanks text).trans opening
      exact skipMember_eq_ok_iff.mpr ⟨_, _, rfl, again, rfl⟩
  | object =>
      obtain ⟨_, separated, key, colon⟩ := Reader.bind_eq_ok introduction
      have again : skipKey (skipBlanks text) = .ok ((), separated) := by
        unfold skipKey
        rw [skipBlanks_idem]
        exact key
      have introduction : skipIntroduction .object (skipBlanks text) = .ok ((), introduced) :=
        Reader.bind_eq_ok_iff.mpr ⟨_, _, again, colon⟩
      exact skipMember_eq_ok_iff.mpr ⟨_, _, introduction, opening, rfl⟩

theorem skipMember_first {next : Nesting}
    (success : skipMember bracket outer text = .ok (next, rest)) :
    ∃ char tail, skipBlanks text = char :: tail ∧ char ≠ bracket.closing := by
  obtain ⟨introduced, opened, introduction, opening, rfl⟩ := skipMember_eq_ok_iff.mp success
  cases bracket with
  | list =>
      cases introduction
      cases found : skipBlanks text with
      | nil => simp [skipOpening, found, skipScalar, bind, Except.bind] at opening
      | cons char tail =>
          refine ⟨char, tail, rfl, ?_⟩
          rintro rfl
          simp [skipOpening, found, skipScalar, Bracket.closing, bind, Except.bind] at opening
  | object =>
      obtain ⟨_, _, key, _⟩ := Reader.bind_eq_ok introduction
      obtain ⟨key, before, _⟩ := skipKey_sound key
      exact ⟨'"', key, skipBlanks_eq_cons_iff.mpr ⟨before, rfl⟩, by decide⟩

/-- What the run does with brackets that are open, of which the innermost has had a member. -/
def resume (outer : List Bracket) : Reader Nesting :=
  Reader.run skipStep skipStep_progresses ⟨false, outer⟩

theorem resume_of_close {fresh : Bool} (blanks : Blanks text (bracket.closing :: rest)) :
    Reader.run skipStep skipStep_progresses ⟨fresh, bracket :: outer⟩ text = resume outer rest := by
  have found : skipBlanks text = bracket.closing :: rest :=
    skipBlanks_eq_cons_iff.mpr ⟨blanks, by cases bracket <;> rfl⟩
  apply Reader.run_of_some
  simp only [skipStep, found, if_true]

theorem run_of_first {next : Nesting}
    (read : skipMember bracket outer text = .ok (next, middle)) :
    Reader.run skipStep skipStep_progresses ⟨true, bracket :: outer⟩ text =
      Reader.run skipStep skipStep_progresses next middle := by
  obtain ⟨char, tail, found, notClosing⟩ := skipMember_first read
  have again := skipMember_skipBlanks read
  rw [found] at again
  apply Reader.run_of_some
  simp only [skipStep, found, notClosing, if_false, if_true]
  exact Reader.map_eq_ok_iff.mpr ⟨_, again, rfl⟩

theorem resume_of_comma {later : List Char} {next : Nesting} (comma : Blanks text (',' :: later))
    (read : skipMember bracket outer later = .ok (next, middle)) :
    resume (bracket :: outer) text = Reader.run skipStep skipStep_progresses next middle := by
  have found : skipBlanks text = ',' :: later := skipBlanks_eq_cons_iff.mpr ⟨comma, rfl⟩
  have notClosing : ',' ≠ bracket.closing := by cases bracket <;> decide
  apply Reader.run_of_some
  simp only [skipStep, found, notClosing, if_false, if_true, Bool.false_eq_true]
  exact Reader.map_eq_ok_iff.mpr ⟨_, read, rfl⟩

theorem skipOpening_of_scalar {char : Char} (visible : isBlank char = false) (noList : char ≠ '[')
    (noObject : char ≠ '{') (read : skipScalar (char :: text) = .ok ((), rest)) :
    skipOpening (char :: text) = .ok (none, rest) := by
  unfold skipOpening
  rw [skipBlanks_of_visible visible]
  split
  · rename_i found
    cases found
    contradiction
  · rename_i found
    cases found
    contradiction
  · exact Reader.except_bind_eq_ok_iff.mpr ⟨_, read, rfl⟩

theorem skipOpening_of_number (form : AnyNumber text rest) (delimited : Delimited rest) :
    skipOpening text = .ok (none, rest) := by
  cases form with
  | negative form =>
      have read := skipMagnitude_complete form delimited
      exact skipOpening_of_scalar rfl (by decide) (by decide) read
  | plain form =>
      have read := skipMagnitude_complete form delimited
      obtain ⟨⟨form, _⟩, _, _⟩ := form
      have starts := form.startsWithDigit
      cases text with
      | nil => contradiction
      | cons first text =>
          have decimal : first.isDigit = true := starts
          apply skipOpening_of_scalar (visible_of_digit decimal) (ne_of_digit decimal rfl)
            (ne_of_digit decimal rfl)
          simp [skipScalar, ne_of_digit decimal, decimal, read]

theorem skipOpening_of_blanks (before : Blanks text value) :
    skipOpening text = skipOpening value := by
  unfold skipOpening
  rw [before.skipBlanks_eq]

theorem skipMember_of_element {opened : Option Bracket} (before : Blanks text value)
    (opening : skipOpening value = .ok (opened, middle)) :
    skipMember .list outer text = .ok (entered (.list :: outer) opened, middle) :=
  skipMember_eq_ok_iff.mpr ⟨_, _, rfl, (skipOpening_of_blanks before).trans opening, rfl⟩

theorem skipMember_of_member {key colon separated : List Char} {opened : Option Bracket}
    (before : Blanks text ('"' :: key)) (name : LooseLiteral key colon)
    (around : Blanks colon (':' :: separated)) (space : Blanks separated value)
    (opening : skipOpening value = .ok (opened, middle)) :
    skipMember .object outer text = .ok (entered (.object :: outer) opened, middle) := by
  have found : skipBlanks text = '"' :: key := skipBlanks_eq_cons_iff.mpr ⟨before, rfl⟩
  have keyRead : skipKey text = .ok ((), colon) := by
    simp only [skipKey, found]
    exact skipLiteral_eq_ok_iff.mpr name
  have introduction : skipIntroduction .object text = .ok ((), separated) :=
    Reader.bind_eq_ok_iff.mpr ⟨_, _, keyRead, colon_eq_ok_iff.mpr around⟩
  exact skipMember_eq_ok_iff.mpr
    ⟨_, _, introduction, (skipOpening_of_blanks space).trans opening, rfl⟩

mutual

/-- What is open around a value does not matter for passing over it. -/
theorem value_passed {text rest : List Char} (form : Value text rest) (delimited : Delimited rest)
    (outer : List Bracket) :
    ∃ opened middle, skipOpening text = .ok (opened, middle) ∧
      Reader.run skipStep skipStep_progresses (entered outer opened) middle = resume outer rest := by
  match form with
  | .null => exact ⟨none, rest, rfl, rfl⟩
  | .yes => exact ⟨none, rest, rfl, rfl⟩
  | .no => exact ⟨none, rest, rfl, rfl⟩
  | .number form => exact ⟨none, rest, skipOpening_of_number form delimited, rfl⟩
  | .literal form =>
      have read := skipLiteral_eq_ok_iff.mpr form
      exact ⟨none, rest, skipOpening_of_scalar rfl (by decide) (by decide) read, rfl⟩
  | .emptyList blanks => exact ⟨some .list, _, rfl, resume_of_close blanks⟩
  | .emptyObject blanks => exact ⟨some .object, _, rfl, resume_of_close blanks⟩
  | .list elements =>
      obtain ⟨_, _, read, passed⟩ := elements_passed elements outer
      exact ⟨some .list, _, rfl, (run_of_first read).trans passed⟩
  | .object members =>
      obtain ⟨_, _, read, passed⟩ := members_passed members outer
      exact ⟨some .object, _, rfl, (run_of_first read).trans passed⟩

theorem elements_passed {text rest : List Char} (form : Elements text rest)
    (outer : List Bracket) :
    ∃ next middle, skipMember .list outer text = .ok (next, middle) ∧
      Reader.run skipStep skipStep_progresses next middle = resume outer rest := by
  match form with
  | .last before element after =>
      obtain ⟨_, _, opening, passed⟩ :=
        value_passed element (after.delimited (.inr (.inl rfl))) (.list :: outer)
      have closed : resume (.list :: outer) _ = resume outer rest := resume_of_close after
      exact ⟨_, _, skipMember_of_element before opening, passed.trans closed⟩
  | .more before element after elements =>
      obtain ⟨_, _, opening, passed⟩ :=
        value_passed element (after.delimited (.inl rfl)) (.list :: outer)
      obtain ⟨_, _, read, later⟩ := elements_passed elements outer
      have onward := (resume_of_comma after read).trans later
      exact ⟨_, _, skipMember_of_element before opening, passed.trans onward⟩

theorem members_passed {text rest : List Char} (form : Members text rest)
    (outer : List Bracket) :
    ∃ next middle, skipMember .object outer text = .ok (next, middle) ∧
      Reader.run skipStep skipStep_progresses next middle = resume outer rest := by
  match form with
  | .last before name around space member after =>
      obtain ⟨_, _, opening, passed⟩ :=
        value_passed member (after.delimited (.inr (.inr rfl))) (.object :: outer)
      have closed : resume (.object :: outer) _ = resume outer rest := resume_of_close after
      exact ⟨_, _, skipMember_of_member before name around space opening, passed.trans closed⟩
  | .more before name around space member after members =>
      obtain ⟨_, _, opening, passed⟩ :=
        value_passed member (after.delimited (.inl rfl)) (.object :: outer)
      obtain ⟨_, _, read, later⟩ := members_passed members outer
      have onward := (resume_of_comma after read).trans later
      exact ⟨_, _, skipMember_of_member before name around space opening, passed.trans onward⟩

end

theorem skipValue_complete (blanks : Blanks text value) (form : Value value rest)
    (delimited : Delimited rest) : skipValue text = .ok ((), rest) := by
  obtain ⟨opened, middle, opening, passed⟩ := value_passed form delimited []
  have ended : resume [] rest = .ok (⟨false, []⟩, rest) :=
    Reader.run_of_none (skipStep_eq_none_iff.mpr ⟨rfl, rfl⟩)
  rw [ended] at passed
  refine Reader.bind_eq_ok_iff.mpr ⟨_, _, (skipOpening_of_blanks blanks).trans opening, ?_⟩
  cases opened with
  | none =>
      have same := passed.symm.trans (Reader.run_of_none (skipStep_eq_none_iff.mpr ⟨rfl, rfl⟩))
      cases same
      rfl
  | some bracket => exact Reader.bind_eq_ok_iff.mpr ⟨_, _, passed, rfl⟩

end GraphicsProfile.Document
