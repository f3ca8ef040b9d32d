import GraphicsProfile.Document.Grammar.Cut
import GraphicsProfile.Proofs.Document.Sequential.Literals
import GraphicsProfile.Proofs.Document.Sequential.Numbers
import GraphicsProfile.Proofs.Document.Values

namespace GraphicsProfile.Document

open Grammar Reader Text

variable {text middle rest value : List Char} {bracket : Bracket} {outer : List Bracket}

theorem skipDigits_orderly : Orderly Never (· = []) skipDigits := by
  refine .glance (fun char =>
      if char.isDigit then (fun _ => ()) <$> digitRow else refuse .invalidNumber)
    (fun char rest => ?_) (fun alike => ?_) (fun char => ?_) ⟨rfl, fun never => never.elim⟩
    fun _ _ => rfl
  · by_cases digit : char.isDigit = true <;> simp [skipDigits, startsWithDigit, digitRow, digit]
  · rw [alike.isDigit]
  · refine .ite (.map ?_) (.refuse (by decide))
    exact (digitRow_sequential.weaken False.elim).orderly_of_total
      fun _ _ stopped => by cases stopped

theorem skipFraction_orderly : Orderly Never (· = ['.']) skipFraction := by
  refine .glance (fun char =>
      if char = '.' then behindNext skipDigits else pure ())
    (fun char rest => ?_) (fun alike => ?_) (fun char => ?_) ⟨rfl, fun never => never.elim⟩
    fun stopped => by cases stopped
  · unfold skipFraction
    split <;> simp_all
  · simp (disch := decide) only [alike.eq_iff]
  · split
    · rename_i point
      refine skipDigits_orderly.behindNext fun ended same => ?_
      rw [← point, Option.some.inj same, ended]
    · exact .pure ()

theorem skipExponent_orderly :
    Orderly Never (fun text => ∃ mark signed, text = mark :: signed ∧
      isExponentMark mark = true ∧ Sign signed []) skipExponent := by
  refine .glance (fun char =>
      if isExponentMark char then
        behindNext ((fun text => .ok (exponentSign text)) >>= fun _ => skipDigits)
      else pure ())
    (fun char rest => ?_) (fun alike => ?_) (fun char => ?_) ⟨rfl, fun never => never.elim⟩
    fun stopped => by cases stopped
  · simp only [skipExponent]
    split <;> rfl
  · rw [alike.isExponentMark]
  · split
    · rename_i marked
      have sign : Orderly Never (fun text => Sign text []) (fun text => .ok (exponentSign text)) :=
        (exponentSign_sequential.weaken False.elim).orderly_of_total
          fun _ _ stopped => by cases stopped
      refine (sign.bind _ (fun _ => skipDigits_orderly) fun {text _ _} read ended => ?_).behindNext
        fun signed same => ⟨_, _, rfl, Option.some.inj same ▸ marked, signed⟩
      have behind : (exponentSign text).2 = [] :=
        (congrArg Prod.snd (Except.ok.inj read)).trans ended
      exact behind ▸ exponentSign_sound text
    · exact .pure ()

theorem skipInteger_orderly : Orderly Never (· = []) skipInteger := by
  refine .glance (fun char =>
      if char = '0' then behindNext ((fun _ => ()) <$> loneZero)
      else if char.isDigit then behindNext ((fun _ => ()) <$> digitRow)
      else refuse .invalidNumber)
    (fun char rest => ?_) (fun alike => ?_) (fun char => ?_) ⟨rfl, fun never => never.elim⟩
    fun _ _ => rfl
  · unfold skipInteger
    split <;> simp_all [loneZero, digitRow]
    split <;> rfl
  · simp (disch := decide) only [alike.eq_iff, alike.isDigit]
  · refine .ite (.behindNext_strict ?_)
      (.ite (.behindNext_strict (.map ?_)) (.refuse (by decide)))
    · exact (loneZero_orderly.weaken False.elim).map
    · exact (digitRow_sequential.weaken False.elim).orderly_of_total fun _ _ stopped => by
        cases stopped

/-- A number without sign is refused for good, unless it may yet go on with a digit. -/
theorem skipMagnitude_orderly :
    Orderly Never (fun text => text = [] ∨ UnfinishedUnsigned text) skipMagnitude := by
  refine (skipInteger_orderly.mono .inl).bind (fun _ behind =>
      behind = ['.'] ∨ ∃ mark signed, Fraction behind (mark :: signed) ∧
        (mark = 'e' ∨ mark = 'E') ∧ Sign signed []) (fun _ => ?_) fun read unfinished => ?_
  · refine (skipFraction_orderly.mono .inl).bind _ (fun _ => skipExponent_orderly)
      fun read unfinished => ?_
    obtain ⟨mark, signed, rfl, marked, sign⟩ := unfinished
    simp only [isExponentMark, Bool.or_eq_true, beq_iff_eq] at marked
    exact .inr ⟨mark, signed, skipFraction_sound read, marked, sign⟩
  · obtain ⟨row, whole⟩ := skipInteger_sound read
    rcases unfinished with rfl | ⟨mark, signed, fraction, marked, sign⟩
    · exact .inr (.fraction whole)
    · exact .inr (.exponent whole fraction marked sign)

theorem skipScalar_wanting : Wanting skipScalar :=
  ⟨_, rfl, rfl⟩

theorem skipScalar_orderly : Orderly Never UnfinishedNumber skipScalar := by
  refine .glance (fun char =>
      if char = '"' then behindNext skipLiteral
      else if char = 'n' then behindNext (word ['u', 'l', 'l'])
      else if char = 't' then behindNext (word ['r', 'u', 'e'])
      else if char = 'f' then behindNext (word ['a', 'l', 's', 'e'])
      else if char = '-' then behindNext skipMagnitude
      else if char.isDigit then skipMagnitude
      else refuse .expectedValue)
    (fun char rest => ?_) (fun alike => ?_) (fun char => ?_) ⟨rfl, fun never => never.elim⟩
    fun stopped category => absurd (skipScalar_wanting.patient stopped) category
  · unfold skipScalar
    split <;> simp_all
  · simp (disch := decide) only [alike.eq_iff, alike.isDigit]
  · refine .ite (skipLiteral_orderly.behindNext_strict) ?_
    refine .ite ((word_orderly _ (by decide)).behindNext_strict) ?_
    refine .ite ((word_orderly _ (by decide)).behindNext_strict) ?_
    refine .ite ((word_orderly _ (by decide)).behindNext_strict) ?_
    split
    · rename_i minus
      refine skipMagnitude_orderly.behindNext fun unfinished same => ?_
      rw [← Option.some.inj same] at minus
      rcases unfinished with rfl | unfinished
      · exact minus ▸ .sign
      · exact minus ▸ .negative unfinished
    · refine .ite (skipMagnitude_orderly.mono fun unfinished same => ?_) (.refuse (by decide))
      rcases unfinished with rfl | unfinished
      · cases same
      · exact .plain unfinished

theorem skipOpening_orderly :
    Orderly Never (fun text => UnfinishedNumber (skipBlanks text)) skipOpening := by
  refine .peek .endOfValue (fun char =>
      if char = '[' then behindNext (pure (some .list))
      else if char = '{' then behindNext (pure (some .object))
      else (fun _ => none) <$> skipScalar) UnfinishedNumber
    (fun found => ?_) (fun found => ?_) (fun alike => ?_) (fun char => ?_) rfl id
  · simp only [skipOpening, found]
    rfl
  · simp only [skipOpening, found]
    split <;> simp_all
  · simp (disch := decide) only [alike.eq_iff]
  · refine .ite (.behindNext_strict (.pure _)) ?_
    refine .ite (.behindNext_strict (.pure _)) ?_
    exact .map (skipScalar_orderly.mono fun unfinished _ => unfinished)

theorem skipKey_sequential {follows : List Char → Prop} : Sequential follows skipKey := by
  refine .peek (.error (Cause.endOfObject.before [])) (fun char =>
      if char = '"' then behindNext skipLiteral else refuse .keyNotString)
    (fun found => ?_) (fun found => ?_) (fun alike => ?_) (fun char => ?_) ⟨rfl, fun _ => rfl⟩
  · simp only [skipKey, found]
  · simp only [skipKey, found]
    split <;> simp_all
  · simp (disch := decide) only [alike.eq_iff]
  · exact .ite (.behindNext skipLiteral_sequential) (.refuse (by decide))

theorem skipIntroduction_orderly {follows exempt : List Char → Prop} (bracket : Bracket) :
    Orderly follows exempt (skipIntroduction bracket) := by
  cases bracket with
  | list => exact .pure ()
  | object =>
      refine (skipKey_sequential.bind fun _ => colon_sequential).orderly ?_
      exact Wanting.patient ⟨_, rfl, rfl⟩

/-- What introduces the value of a member. -/
def Introduced : Bracket → List Char → List Char → Prop
  | .list => Blanks
  | .object => LooseKey

/-- A member with all that belongs to it. -/
def Sibling : Bracket → List Char → Unit → List Char → Prop
  | .list => Element
  | .object => Pair

/-- From a place behind the opening of a bracket or behind one of its members, the text goes on to
a number inside another one of its members, and ends in that number. -/
inductive Unfinished : Bool → Bracket → List Char → Prop where
  | first {bracket : Bracket} {text last value number : List Char} {siblings : List Unit}
      (leading : Leading (Sibling bracket) text siblings last)
      (introduced : Introduced bracket last value) (within : Within value number)
      (unfinished : UnfinishedNumber number) : Unfinished true bracket text
  | next {bracket : Bracket} {text later : List Char} (comma : Blanks text (',' :: later))
      (unfinished : Unfinished true bracket later) : Unfinished false bracket text

/-- The text ends in a number inside one of the open brackets. -/
def Stuck : Bool → List Bracket → List Char → Prop
  | _, [], _ => False
  | fresh, bracket :: outer, text =>
      Unfinished fresh bracket text ∨
        ∃ behind, Owed fresh bracket text behind ∧ Stuck false outer behind

theorem skipIntroduction_sound (success : skipIntroduction bracket text = .ok ((), middle)) :
    Introduced bracket text (skipBlanks middle) := by
  cases bracket with
  | list =>
      cases success
      exact blanks_skipBlanks text
  | object =>
      obtain ⟨_, separated, key, colon⟩ := Reader.bind_eq_ok success
      obtain ⟨key, before, name⟩ := skipKey_sound key
      exact .quoted before name (colon_eq_ok_iff.mp colon) (blanks_skipBlanks _)

theorem Introduced.behind_blanks (blanks : Blanks text middle)
    (introduced : Introduced bracket middle value) : Introduced bracket text value := by
  cases bracket with
  | list => exact blanks.trans introduced
  | object =>
      obtain ⟨before, name, around, space⟩ := introduced
      exact .quoted (blanks.trans before) name around space

theorem Item.sibling (item : Item bracket text rest) : Sibling bracket text () rest := by
  cases item with
  | element before element => exact .element before element
  | member before name around space member => exact .pair (.quoted before name around space) member

theorem Sibling.behind_blanks {sibling : Unit} (blanks : Blanks text middle)
    (member : Sibling bracket middle sibling rest) : Sibling bracket text sibling rest := by
  cases bracket with
  | list =>
      obtain ⟨before, form⟩ := member
      exact .element (blanks.trans before) form
  | object =>
      obtain ⟨⟨before, name, around, space⟩, form⟩ := member
      exact .pair (.quoted (blanks.trans before) name around space) form

theorem Unfinished.behind_blanks {fresh : Bool} (blanks : Blanks text middle)
    (unfinished : Unfinished fresh bracket middle) : Unfinished fresh bracket text := by
  cases unfinished with
  | next comma unfinished => exact .next (blanks.trans comma) unfinished
  | first leading introduced within unfinished =>
      cases leading with
      | none => exact .first .none (introduced.behind_blanks blanks) within unfinished
      | more first comma others =>
          have leading := Leading.more (first.behind_blanks blanks) comma others
          exact .first leading introduced within unfinished

theorem skipMember_orderly :
    Orderly Never (Unfinished true bracket) (skipMember bracket outer) := by
  refine (skipIntroduction_orderly bracket).bind
    (fun _ text => UnfinishedNumber (skipBlanks text)) (fun _ => ?_) fun read unfinished => ?_
  · refine skipOpening_orderly.bind_strict fun opened => ?_
    cases opened <;> exact .pure _
  · exact .first .none (skipIntroduction_sound read) .here unfinished

theorem closing_narrow (bracket : Bracket) : bracket.closing.utf8Size = 1 := by
  cases bracket <;> rfl

theorem skipStep_orderly (nesting : Nesting) :
    Orderly Never (Stuck nesting.fresh nesting.brackets) (skipStep nesting) := by
  obtain ⟨fresh, brackets⟩ := nesting
  cases brackets with
  | nil => exact .pure none
  | cons bracket outer =>
      refine .peek bracket.unfinished (fun char =>
          if char = bracket.closing then behindNext (pure (some ⟨false, outer⟩))
          else if fresh then some <$> skipMember bracket outer
          else if char = ',' then behindNext (some <$> skipMember bracket outer)
          else refuse bracket.unseparated) (Unfinished fresh bracket)
        (fun found => ?_) (fun found => ?_) (fun alike => ?_) (fun char => ?_)
        (by cases bracket <;> rfl)
        fun unfinished => .inl (unfinished.behind_blanks (blanks_skipBlanks _))
      · simp only [skipStep, found]
      · simp [skipStep, found]
      · simp (disch := decide) only [alike.eq_iff, alike.eq_iff (closing_narrow bracket)]
      · refine .ite (.behindNext_strict (.pure _)) ?_
        cases fresh with
        | true => exact .map (skipMember_orderly.mono fun unfinished _ => unfinished)
        | false =>
            simp only [Bool.false_eq_true, if_false]
            split
            · rename_i comma
              refine skipMember_orderly.map.behindNext fun unfinished same => ?_
              rw [Option.some.inj same, comma]
              exact .next .none unfinished
            · exact .refuse (by cases bracket <;> decide)

theorem Unfinished.prepend (item : Item bracket text middle)
    (unfinished : Unfinished false bracket middle) : Unfinished true bracket text := by
  cases unfinished with
  | next comma unfinished =>
      cases unfinished with
      | first leading introduced within unfinished =>
          exact .first (.more item.sibling comma leading) introduced within unfinished

theorem Unfinished.within (unfinished : Unfinished true bracket text) :
    ∃ number, Within (bracket.opening :: text) number ∧ UnfinishedNumber number := by
  cases unfinished with
  | first leading introduced within unfinished =>
      refine ⟨_, ?_, unfinished⟩
      cases bracket with
      | list => exact .element leading introduced within
      | object => exact .member leading introduced within

theorem item_of_introduced (introduced : Introduced bracket text value) (form : Value value rest) :
    Item bracket text rest := by
  cases bracket with
  | list => exact .element introduced form
  | object =>
      obtain ⟨before, name, around, space⟩ := introduced
      exact .member before name around space form

/-- A text is stuck in the members of a bracket, or it is stuck behind them. -/
def StuckInBody (bracket : Bracket) (outer : List Bracket) (text : List Char) : Prop :=
  Unfinished true bracket text ∨ ∃ behind, Body bracket text behind ∧ Stuck false outer behind

theorem stuck_of_item (item : Item bracket text middle)
    (stuck : Stuck false (bracket :: outer) middle) : StuckInBody bracket outer text := by
  rcases stuck with unfinished | ⟨behind, owed, stuck⟩
  · exact .inl (unfinished.prepend item)
  · exact .inr ⟨behind, body_of_item item owed, stuck⟩

theorem stuck_of_member {next : Nesting} (read : skipMember bracket outer text = .ok (next, middle))
    (stuck : Stuck next.fresh next.brackets middle) : StuckInBody bracket outer text := by
  obtain ⟨between, opened, introduction, opening, rfl⟩ := skipMember_eq_ok_iff.mp read
  have introduced := skipIntroduction_sound introduction
  cases opened with
  | none =>
      have item := item_of_introduced introduced (skipOpening_none_sound opening)
      exact stuck_of_item item stuck
  | some inner =>
      rw [skipOpening_some_sound opening] at introduced
      rcases stuck with unfinished | ⟨behind, owed, stuck⟩
      · obtain ⟨number, within, unfinished⟩ := unfinished.within
        exact .inl (.first .none introduced within unfinished)
      · exact stuck_of_item (item_of_introduced introduced (value_of_owed owed)) stuck

theorem body_behind_blanks (blanks : Blanks text middle) (body : Body bracket middle rest) :
    Body bracket text rest := by
  cases bracket with
  | list =>
      cases body with
      | last before element after => exact .last (blanks.trans before) element after
      | more before element after elements =>
          exact .more (blanks.trans before) element after elements
  | object =>
      cases body with
      | last before name around space member after =>
          exact .last (blanks.trans before) name around space member after
      | more before name around space member after members =>
          exact .more (blanks.trans before) name around space member after members

/-- What is stuck behind one round is stuck in front of it. -/
theorem stuck_of_step {nesting next : Nesting}
    (read : skipStep nesting text = .ok (some next, middle))
    (stuck : Stuck next.fresh next.brackets middle) :
    Stuck nesting.fresh nesting.brackets text := by
  obtain ⟨fresh, brackets⟩ := nesting
  cases brackets with
  | nil => cases read
  | cons bracket outer =>
      have blanks := blanks_skipBlanks text
      simp only [skipStep] at read
      split at read
      · cases read
      · rename_i char tail found
        rw [found] at blanks
        split at read
        · rename_i closing
          cases read
          rw [closing] at blanks
          exact .inr ⟨middle, .close blanks, stuck⟩
        · split at read
          · rename_i isFresh
            obtain ⟨_, read, same⟩ := Reader.map_eq_ok_iff.mp read
            cases same
            rw [isFresh]
            rcases stuck_of_member read stuck with unfinished | ⟨behind, body, stuck⟩
            · exact .inl (unfinished.behind_blanks blanks)
            · exact .inr ⟨behind, .first (body_behind_blanks blanks body), stuck⟩
          · rename_i notFresh
            split at read
            · rename_i comma
              obtain ⟨_, read, same⟩ := Reader.map_eq_ok_iff.mp read
              cases same
              rw [comma] at blanks
              rw [Bool.eq_false_iff.mpr notFresh]
              rcases stuck_of_member read stuck with unfinished | ⟨behind, body, stuck⟩
              · exact .inl (.next blanks unfinished)
              · exact .inr ⟨behind, .next blanks body, stuck⟩
            · cases read

theorem skipValue_orderly :
    Orderly Never (fun text => ∃ number, Within (skipBlanks text) number ∧
      UnfinishedNumber number) skipValue := by
  refine (skipOpening_orderly.mono fun unfinished => ⟨_, .here, unfinished⟩).bind
    (fun opened text => ∃ bracket, opened = some bracket ∧ Stuck true [bracket] text)
    (fun opened => ?_) fun read given => ?_
  · cases opened with
    | none => exact .pure ()
    | some bracket =>
        have rounds : Orderly Never (Stuck true [bracket])
            (Reader.run skipStep skipStep_progresses ⟨true, [bracket]⟩) :=
          .run skipStep_orderly stuck_of_step ⟨true, [bracket]⟩
        exact (rounds.mono fun stuck => ⟨bracket, rfl, stuck⟩).bind_strict fun _ => .pure ()
  · obtain ⟨bracket, rfl, stuck⟩ := given
    rw [skipOpening_some_sound read]
    rcases stuck with unfinished | ⟨_, _, nothing⟩
    · exact unfinished.within
    · exact nothing.elim

end GraphicsProfile.Document
