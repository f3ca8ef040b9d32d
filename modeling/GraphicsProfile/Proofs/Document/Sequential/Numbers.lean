import GraphicsProfile.Proofs.Document.Endings
import GraphicsProfile.Proofs.Document.Numbers

namespace GraphicsProfile.Document

open Grammar Reader Text

variable {follows exempt : List Char → Prop} {left right : Char} {text rest row : List Char}

theorem Alike.isDigit (alike : Alike left right) : left.isDigit = right.isDigit := by
  refine alike.congr false fun digit => ?_
  simp only [ne_eq, Bool.not_eq_false, Char.isDigit, Bool.and_eq_true, decide_eq_true_eq] at digit
  rw [Char.utf8Size_eq_one_iff]
  exact UInt32.le_trans digit.2 (by decide)

theorem Alike.isExponentMark (alike : Alike left right) :
    isExponentMark left = isExponentMark right := by
  refine alike.congr false fun mark => ?_
  simp only [Document.isExponentMark, ne_eq, Bool.not_eq_false, Bool.or_eq_true, beq_iff_eq] at mark
  rcases mark with rfl | rfl <;> rfl

/-- The digits that stand here, if any. -/
def digitRow : Reader (List Char) := fun text =>
  .ok (text.takeWhile Char.isDigit, text.dropWhile Char.isDigit)

theorem digitRow_append (delimited : Delimited rest) :
    (text ++ rest).takeWhile Char.isDigit = text.takeWhile Char.isDigit ∧
      (text ++ rest).dropWhile Char.isDigit = text.dropWhile Char.isDigit ++ rest := by
  induction text with
  | nil =>
      cases rest with
      | nil => exact ⟨rfl, rfl⟩
      | cons char rest =>
          have other : ¬ char.isDigit = true := Bool.eq_false_iff.mp delimited.noDigit
          exact ⟨List.takeWhile_cons_of_neg other, List.dropWhile_cons_of_neg other⟩
  | cons char text ih =>
      by_cases digit : char.isDigit = true
      · simp only [List.cons_append, List.takeWhile_cons_of_pos digit,
          List.dropWhile_cons_of_pos digit, ih, and_self]
      · simp only [List.cons_append, List.takeWhile_cons_of_neg digit,
          List.dropWhile_cons_of_neg digit, and_self]

theorem digitRow_keeps : Keeps digitRow := by
  intro text row rest success
  cases success
  exact digits_split text

theorem Agree.digitRow {behind behind' : Nat} {text' : List Char}
    (agree : Agree behind behind' text text')
    (further : behind < byteSize (text.dropWhile Char.isDigit)) :
    text'.takeWhile Char.isDigit = text.takeWhile Char.isDigit ∧
      Agree behind behind' (text.dropWhile Char.isDigit) (text'.dropWhile Char.isDigit) := by
  induction agree with
  | @last left right rest other alike =>
      cases digit : left.isDigit with
      | true =>
          have shorter : byteSize (rest.dropWhile Char.isDigit) ≤ byteSize rest :=
            digitRow_keeps.byteSize_le rfl
          rw [List.dropWhile_cons_of_pos digit] at further
          omega
      | false =>
          have left' : ¬ left.isDigit = true := Bool.eq_false_iff.mp digit
          have right' : ¬ right.isDigit = true := alike.isDigit ▸ left'
          rw [List.takeWhile_cons_of_neg left', List.takeWhile_cons_of_neg right',
            List.dropWhile_cons_of_neg left', List.dropWhile_cons_of_neg right']
          exact ⟨rfl, .last alike⟩
  | @more _ _ char text text' later ih =>
      by_cases digit : char.isDigit = true
      · simp only [List.takeWhile_cons_of_pos digit, List.dropWhile_cons_of_pos digit] at further ⊢
        obtain ⟨row, agree⟩ := ih further
        exact ⟨congrArg (char :: ·) row, agree⟩
      · simp only [List.takeWhile_cons_of_neg digit, List.dropWhile_cons_of_neg digit]
        exact ⟨trivial, .more later⟩

theorem digitRow_sequential : Sequential Delimited digitRow where
  keeps := digitRow_keeps
  bounded stopped := nomatch stopped
  ended stopped := nomatch stopped
  value agree success further := by
    cases success
    obtain ⟨row, agree⟩ := agree.digitRow further
    exact ⟨_, congrArg (fun row => Except.ok (row, _)) row, agree⟩
  fault _ stopped := nomatch stopped
  appendValue success delimited := by
    cases success
    obtain ⟨row, rest⟩ := digitRow_append delimited
    rw [digitRow, row, rest]
  appendFault stopped := nomatch stopped

theorem digits_sequential : Sequential Delimited digits := by
  refine .glance (fun char =>
      if char.isDigit then digitRow else refuse .invalidNumber)
    (fun char rest => ?_) (fun alike => ?_) (fun char => ?_) ⟨rfl, fun _ => rfl⟩
  · by_cases digit : char.isDigit = true <;> simp [digits, digitRow, digit]
  · rw [alike.isDigit]
  · exact digitRow_sequential.ite (.refuse (by decide))

/-- A zero that no further digit follows, from behind it. -/
def loneZero : Reader (List Char) := fun text =>
  if startsWithDigit text then .error (Cause.invalidNumber.behindByte text) else .ok (['0'], text)

theorem loneZero_orderly : Orderly Delimited exempt loneZero := by
  refine .glance (fun char =>
      if char.isDigit then refuse .invalidNumber else pure ['0'])
    (fun char rest => ?_) (fun alike => ?_) (fun char => ?_) ⟨rfl, fun delimited => ?_⟩
    fun stopped => by cases stopped
  · by_cases digit : char.isDigit = true <;> simp [loneZero, startsWithDigit, digit]
  · rw [alike.isDigit]
  · exact .ite (.refuse (by decide)) (.pure _)
  · simp [loneZero, delimited.noDigit]

theorem integerDigits_sequential : Sequential Delimited integerDigits := by
  refine .glance (fun char => if char = '0' then behindNext loneZero else digits)
    (fun char rest => ?_) (fun alike => ?_) (fun char => ?_) ⟨rfl, fun _ => rfl⟩
  · unfold integerDigits
    split <;> simp_all [loneZero]
  · simp (disch := decide) only [alike.eq_iff]
  · have zero : Orderly Delimited Never loneZero := loneZero_orderly
    exact .ite (.behindNext zero.toSequential) digits_sequential

theorem fractionPart_sequential (number : Scientific) :
    Sequential Delimited (fractionPart number) := by
  refine .glance (fun char =>
      if char = '.' then behindNext (number.appendFraction <$> digits) else pure number)
    (fun char rest => ?_) (fun alike => ?_) (fun char => ?_) ⟨rfl, fun {more} delimited => ?_⟩
  · unfold fractionPart
    split <;> simp_all
  · simp (disch := decide) only [alike.eq_iff]
  · exact .ite (.behindNext digits_sequential.map) (.pure _)
  · unfold fractionPart
    split
    · exact absurd delimited.noContinuation (by simp [continuesReal])
    · rfl

theorem Delimited.exponentSign (delimited : Delimited text) :
    exponentSign text = (false, text) := by
  unfold Document.exponentSign
  split
  · exact absurd (delimited '+' rfl) (by decide)
  · exact absurd (delimited '-' rfl) (by decide)
  · rfl

theorem exponentSign_sequential :
    Sequential Delimited (fun text => .ok (exponentSign text)) := by
  refine .glance (fun char =>
      if char = '+' then behindNext (pure false)
      else if char = '-' then behindNext (pure true) else pure false)
    (fun char rest => ?_) (fun alike => ?_) (fun char => ?_)
    ⟨rfl, fun delimited => congrArg Except.ok delimited.exponentSign⟩
  · unfold exponentSign
    split <;> simp_all
  · simp (disch := decide) only [alike.eq_iff]
  · exact .ite (.behindNext (.pure _)) (.ite (.behindNext (.pure _)) (.pure _))

/-- The digits that fit into a limit, and the first one that does not. Which one that is does not
depend on what stands behind it. -/
theorem appendDigits_surplus {limit value : Nat} {digit : Char} {surplus : List Char}
    (overflow : (appendDigits limit value row).2 = digit :: surplus) :
    ∃ fits, row = fits ++ digit :: surplus ∧
      ∀ more, (appendDigits limit value (fits ++ digit :: more)).2 = digit :: more := by
  induction row generalizing value with
  | nil => cases overflow
  | cons first row ih =>
      by_cases room : value * 10 + digitValue first ≤ limit
      · rw [appendDigits, if_pos room] at overflow
        obtain ⟨fits, split, same⟩ := ih overflow
        refine ⟨first :: fits, congrArg (first :: ·) split, fun more => ?_⟩
        rw [List.cons_append, appendDigits, if_pos room, same]
      · rw [appendDigits, if_neg room] at overflow
        cases overflow
        refine ⟨[], rfl, fun more => ?_⟩
        rw [List.nil_append, appendDigits, if_neg room]

/-- Digits give an exponent whatever follows them, or one of them is the first that is too much. -/
theorem raiseExponent_cases (number : Scientific) (negative : Bool) (row : List Char) :
    (∃ value, ∀ rest, raiseExponent number negative row rest = .ok (value, rest)) ∨
    ∃ fits digit surplus, row = fits ++ digit :: surplus ∧
      ∀ more rest, raiseExponent number negative (fits ++ digit :: more) rest =
        .error (Cause.numberOutOfRange.before (more ++ rest)) := by
  cases overflow : (appendDigits maxExponent 0 row).2 with
  | nil =>
      let shift : Int := (appendDigits maxExponent 0 row).1
      refine .inl ⟨⟨number.significand, number.exponent + if negative then -shift else shift⟩,
        fun rest => ?_⟩
      simp only [raiseExponent, overflow, shift]
  | cons digit surplus =>
      by_cases small : number.significand = 0 ∨ negative = true
      · refine .inl ⟨⟨0, 0⟩, fun rest => ?_⟩
        simp only [raiseExponent, overflow, if_pos small]
      · obtain ⟨fits, split, same⟩ := appendDigits_surplus overflow
        refine .inr ⟨fits, digit, surplus, split, fun more rest => ?_⟩
        simp only [raiseExponent, same, if_neg small]

theorem Grammar.Digits.split (form : Digits text row rest) :
    text = row ++ rest ∧ ∀ digit ∈ row, digit.isDigit = true := by
  induction form with
  | last decimal => exact ⟨rfl, fun digit member => List.mem_singleton.mp member ▸ decimal⟩
  | more decimal _ ih =>
      obtain ⟨split, later⟩ := ih
      refine ⟨congrArg (_ :: ·) split, fun digit member => ?_⟩
      rcases List.mem_cons.mp member with rfl | member
      · exact decimal
      · exact later digit member

theorem digits_append (decimal : ∀ digit ∈ row, digit.isDigit = true) (nonempty : row ≠ []) :
    digits (row ++ text) =
      .ok (row ++ text.takeWhile Char.isDigit, text.dropWhile Char.isDigit) := by
  cases row with
  | nil => exact absurd rfl nonempty
  | cons first row =>
      have later : ∀ digit ∈ row, digit.isDigit = true := fun digit member =>
        decimal digit (.tail first member)
      rw [List.cons_append, digits, if_pos (decimal first List.mem_cons_self),
        List.takeWhile_append_of_pos later, List.dropWhile_append_of_pos later, List.cons_append]

theorem raisedDigits_sequential (number : Scientific) (negative : Bool) :
    Sequential Delimited (digits >>= raiseExponent number negative) where
  keeps := digits_sequential.keeps.bind (raiseExponent_keeps number negative)
  bounded stopped := by
    rcases bind_eq_error_iff.mp stopped with stopped | ⟨row, middle, read, stopped⟩
    · exact digits_sequential.bounded stopped
    · rcases raiseExponent_cases number negative row with ⟨_, raised⟩ | ⟨_, _, _, rfl, raised⟩ <;>
        rw [raised] at stopped <;> cases stopped
      rw [(digits_sound read).split.1]
      simp only [Cause.before, byteSize_append, byteSize_cons]
      omega
  ended stopped truncated := by
    rcases bind_eq_error_iff.mp stopped with stopped | ⟨row, middle, read, stopped⟩
    · exact digits_sequential.ended stopped truncated
    · rcases raiseExponent_cases number negative row with ⟨_, raised⟩ | ⟨_, _, _, rfl, raised⟩ <;>
        rw [raised] at stopped <;> cases stopped
      contradiction
  value agree success further := by
    obtain ⟨row, middle, read, raised⟩ := bind_eq_ok success
    rcases raiseExponent_cases number negative row with ⟨_, raised'⟩ | ⟨_, _, _, rfl, raised'⟩ <;>
      rw [raised'] at raised <;> cases raised
    obtain ⟨rest', read', agree⟩ := digits_sequential.value agree read further
    exact ⟨rest', bind_eq_ok_iff.mpr ⟨_, _, read', raised' rest'⟩, agree⟩
  fault agree stopped positive := by
    rcases bind_eq_error_iff.mp stopped with stopped | ⟨row, middle, read, stopped⟩
    · exact bind_eq_of_error (digits_sequential.fault agree stopped positive)
    · rcases raiseExponent_cases number negative row with ⟨_, raised⟩ |
        ⟨fits, digit, surplus, rfl, raised⟩ <;> rw [raised] at stopped
      · cases stopped
      · obtain ⟨rfl, place⟩ := Fault.mk.inj (Except.error.inj stopped)
        obtain ⟨rfl, decimal⟩ := (digits_sound read).split
        -- The digits through the first one that is too much are the same in both texts.
        have front : ∀ more, fits ++ digit :: more = fits ++ [digit] ++ more := by simp
        rw [front, List.append_assoc] at agree
        obtain ⟨other, rfl, behind⟩ := agree.drop_front (by omega)
        have within : ∀ char ∈ fits ++ [digit], char.isDigit = true := by
          intro char member
          refine decimal char ?_
          rw [front]
          exact List.mem_append_left surplus member
        have size := behind.size
        rw [bind_eq_of_ok (digits_append within (by simp)), ← front, raised,
          List.takeWhile_append_dropWhile]
        exact error_eq (by omega)
  appendValue success delimited := by
    obtain ⟨row, middle, read, raised⟩ := bind_eq_ok success
    rcases raiseExponent_cases number negative row with ⟨_, raised'⟩ | ⟨_, _, _, rfl, raised'⟩ <;>
      rw [raised'] at raised <;> cases raised
    rw [bind_eq_of_ok (digits_sequential.appendValue read delimited), raised']
  appendFault stopped category delimited := by
    rcases bind_eq_error_iff.mp stopped with stopped | ⟨row, middle, read, stopped⟩
    · exact bind_eq_of_error (digits_sequential.appendFault stopped category delimited)
    · rcases raiseExponent_cases number negative row with ⟨_, raised⟩ | ⟨_, _, _, rfl, raised⟩ <;>
        rw [raised] at stopped <;> cases stopped
      rw [bind_eq_of_ok (digits_sequential.appendValue read delimited), raised,
        ← List.append_assoc]
      exact error_eq (byteSize_append _ _)

theorem exponentDigits_sequential (number : Scientific) :
    Sequential Delimited (exponentDigits number) :=
  exponentSign_sequential.bind fun negative => raisedDigits_sequential number negative

theorem exponentPart_sequential (number : Scientific) :
    Sequential Delimited (exponentPart number) := by
  refine .glance (fun char =>
      if isExponentMark char then behindNext (exponentDigits number) else pure number)
    (fun char rest => ?_) (fun alike => ?_) (fun char => ?_) ⟨rfl, fun {more} delimited => ?_⟩
  · simp only [exponentPart]
    split <;> rfl
  · rw [alike.isExponentMark]
  · exact .ite (.behindNext (exponentDigits_sequential number)) (.pure _)
  · cases more with
    | nil => rfl
    | cons mark more =>
        have unmarked := delimited.noContinuation
        simp only [continuesReal, Bool.or_eq_false_iff] at unmarked
        simp [exponentPart, unmarked.2]

theorem realNumber_sequential (negative : Bool) (number : Scientific) :
    Sequential follows (realNumber negative number) := by
  unfold realNumber
  cases number.toFloat? with
  | some value => exact .pure _
  | none => exact .stop (by decide)

/-- A real number from behind the digits in front of its point. -/
def realParts (negative : Bool) (whole : Scientific) : Reader Number := do
  let decimal ← fractionPart whole
  let number ← exponentPart decimal
  realNumber negative number

theorem realParts_sequential (negative : Bool) (whole : Scientific) :
    Sequential Delimited (realParts negative whole) :=
  (fractionPart_sequential whole).bind fun decimal => (exponentPart_sequential decimal).bind
    fun number => realNumber_sequential negative number

/-- What makes a number of digits that all fit. It is whole unless a point or an exponent
follows. -/
def behindWhole (negative : Bool) (whole : Scientific) : Reader Number := fun text =>
  if continuesReal text then realParts negative whole text
  else .ok (ofSignificand negative whole.significand, text)

theorem behindWhole_sequential (negative : Bool) (whole : Scientific) :
    Sequential Delimited (behindWhole negative whole) := by
  refine .glance (fun char =>
      if char = '.' ∨ isExponentMark char then realParts negative whole
      else pure (ofSignificand negative whole.significand))
    (fun char rest => ?_) (fun alike => ?_) (fun char => ?_) ⟨rfl, fun delimited => ?_⟩
  · simp [behindWhole, continuesReal]
  · simp (disch := decide) only [alike.eq_iff, alike.isExponentMark]
  · exact .ite (realParts_sequential negative whole) (.pure _)
  · simp [behindWhole, delimited.noContinuation]

theorem magnitude_eq (negative : Bool) :
    magnitude negative = integerDigits >>= fun row =>
      if (Scientific.ofDigits row).exponent = 0 then behindWhole negative (.ofDigits row)
      else realParts negative (.ofDigits row) := by
  refine congrArg (integerDigits >>= ·) (funext fun row => funext fun text => ?_)
  change (if _ ∧ continuesReal text = false then (_ : Reader Number) else _) text = _
  by_cases exact : (Scientific.ofDigits row).exponent = 0
  · cases continued : continuesReal text <;> simp [exact, behindWhole, continued, realParts]
  · simp [exact, realParts]

theorem magnitude_sequential (negative : Bool) : Sequential Delimited (magnitude negative) := by
  rw [magnitude_eq]
  exact integerDigits_sequential.bind fun row =>
    .ite (behindWhole_sequential negative _) (realParts_sequential negative _)

theorem number_sequential : Sequential Delimited number := by
  refine .glance (fun char =>
      if char = '-' then behindNext (magnitude true) else magnitude false)
    (fun char rest => ?_) (fun alike => ?_) (fun char => ?_) ⟨rfl, fun _ => rfl⟩
  · unfold number
    split <;> simp_all
  · simp (disch := decide) only [alike.eq_iff]
  · exact .ite (.behindNext (magnitude_sequential true)) (magnitude_sequential false)

end GraphicsProfile.Document
