import GraphicsProfile.Document.Grammar.Value
import GraphicsProfile.Document.Number
import GraphicsProfile.Proofs.Document.Marks

namespace GraphicsProfile.Document

open Grammar

variable {text rest row : List Char} {limit value : Nat}

theorem Delimited.noDigit (delimited : Delimited text) : startsWithDigit text = false := by
  cases text with
  | nil => rfl
  | cons char text =>
      rcases delimited char rfl with blank | rfl | rfl | rfl
      · rcases blank with rfl | rfl | rfl | rfl <;> rfl
      all_goals rfl

theorem Delimited.noContinuation (delimited : Delimited text) : continuesReal text = false := by
  cases text with
  | nil => rfl
  | cons char text =>
      rcases delimited char rfl with blank | rfl | rfl | rfl
      · rcases blank with rfl | rfl | rfl | rfl <;> rfl
      all_goals rfl

theorem ne_of_digit {digit char : Char} (decimal : digit.isDigit = true)
    (other : char.isDigit = false) : digit ≠ char := by
  rintro rfl
  rw [decimal] at other
  contradiction

theorem visible_of_digit {digit : Char} (decimal : digit.isDigit = true) :
    isBlank digit = false := by
  simp [isBlank, ne_of_digit decimal]

theorem Grammar.Digits.startsWithDigit (form : Digits text row rest) :
    startsWithDigit text = true := by
  cases form with
  | last decimal => exact decimal
  | more decimal _ => exact decimal

theorem digits_of_takeWhile (starts : startsWithDigit text = true) :
    Digits text (text.takeWhile Char.isDigit) (text.dropWhile Char.isDigit) := by
  induction text with
  | nil => contradiction
  | cons digit text ih =>
      have decimal : digit.isDigit = true := starts
      rw [List.takeWhile_cons_of_pos decimal, List.dropWhile_cons_of_pos decimal]
      cases next : Document.startsWithDigit text with
      | true => exact .more decimal (ih next)
      | false =>
          cases text with
          | nil => exact .last decimal
          | cons char text =>
              have other : ¬ char.isDigit = true := Bool.eq_false_iff.mp next
              rw [List.takeWhile_cons_of_neg other, List.dropWhile_cons_of_neg other]
              exact .last decimal

theorem Grammar.Digits.maximal (form : Digits text row rest)
    (ended : Document.startsWithDigit rest = false) :
    text.takeWhile Char.isDigit = row ∧ text.dropWhile Char.isDigit = rest := by
  induction form with
  | @last digit rest decimal =>
      rw [List.takeWhile_cons_of_pos decimal, List.dropWhile_cons_of_pos decimal]
      cases rest with
      | nil => exact ⟨rfl, rfl⟩
      | cons char rest =>
          have other : ¬ char.isDigit = true := Bool.eq_false_iff.mp ended
          rw [List.takeWhile_cons_of_neg other, List.dropWhile_cons_of_neg other]
          exact ⟨rfl, rfl⟩
  | more decimal _ ih =>
      obtain ⟨taken, left⟩ := ih ended
      rw [List.takeWhile_cons_of_pos decimal, List.dropWhile_cons_of_pos decimal, taken, left]
      exact ⟨rfl, rfl⟩

theorem digits_sound (success : digits text = .ok (row, rest)) : Digits text row rest := by
  cases text with
  | nil => cases success
  | cons first text =>
      simp only [digits] at success
      split at success
      · rename_i decimal
        have form : Digits (first :: text) _ _ := digits_of_takeWhile decimal
        rw [List.takeWhile_cons_of_pos decimal, List.dropWhile_cons_of_pos decimal] at form
        cases success
        exact form
      · cases success

theorem digits_complete (form : Digits text row rest)
    (ended : Document.startsWithDigit rest = false) : digits text = .ok (row, rest) := by
  obtain ⟨taken, left⟩ := form.maximal ended
  cases text with
  | nil => cases form
  | cons first text =>
      have decimal : first.isDigit = true := form.startsWithDigit
      rw [List.takeWhile_cons_of_pos decimal] at taken
      rw [List.dropWhile_cons_of_pos decimal] at left
      simp only [digits, decimal, if_true, taken, left]

theorem integerDigits_sound (success : integerDigits text = .ok (row, rest)) :
    Whole text row rest := by
  simp only [integerDigits] at success
  split at success
  · split at success
    · cases success
    · cases success
      exact .digits (.last rfl) fun _ => rfl
  · rename_i noZero
    have form := digits_sound success
    refine .digits form fun leading => ?_
    cases form with
    | last _ =>
        cases leading
        exact absurd rfl (noZero _)
    | more _ _ =>
        cases leading
        exact absurd rfl (noZero _)

theorem integerDigits_complete (form : Whole text row rest)
    (ended : Document.startsWithDigit rest = false) : integerDigits text = .ok (row, rest) := by
  obtain ⟨form, noLeadingZero⟩ := form
  unfold integerDigits
  split
  · rename_i text
    cases form with
    | last _ => simp [ended]
    | more _ later =>
        cases noLeadingZero rfl
        cases later
  · exact digits_complete form ended

/-- The number that a row of digits writes behind the digits of another one. -/
def decimalFrom (value : Nat) (row : List Char) : Nat :=
  row.foldl (fun value digit => value * 10 + digitValue digit) value

theorem decimalValue_eq (row : List Char) : decimalValue row = decimalFrom 0 row := by
  simp only [decimalValue, decimalFrom, digitValue, Nat.ofDigitChars_eq_foldl, Nat.mul_comm]

theorem decimalFrom_cons (value : Nat) (digit : Char) (row : List Char) :
    decimalFrom value (digit :: row) = decimalFrom (value * 10 + digitValue digit) row := by
  rw [decimalFrom, List.foldl_cons, decimalFrom]

theorem le_decimalFrom (value : Nat) (row : List Char) : value ≤ decimalFrom value row := by
  induction row generalizing value with
  | nil => exact Nat.le_refl value
  | cons digit row ih =>
      have longer := ih (value * 10 + digitValue digit)
      rw [decimalFrom_cons]
      omega

theorem appendDigits_of_le (fits : decimalFrom value row ≤ limit) :
    appendDigits limit value row = (decimalFrom value row, []) := by
  induction row generalizing value with
  | nil => rfl
  | cons digit row ih =>
      rw [decimalFrom_cons] at fits ⊢
      have room : value * 10 + digitValue digit ≤ limit :=
        Nat.le_trans (le_decimalFrom _ row) fits
      rw [appendDigits, if_pos room, ih fits]

theorem appendDigits_of_nothing_left (nothingLeft : (appendDigits limit value row).2 = []) :
    (appendDigits limit value row).1 = decimalFrom value row := by
  induction row generalizing value with
  | nil => rfl
  | cons digit row ih =>
      by_cases room : value * 10 + digitValue digit ≤ limit
      · rw [appendDigits, if_pos room] at nothingLeft ⊢
        exact ih nothingLeft
      · rw [appendDigits, if_neg room] at nothingLeft
        contradiction

theorem ofDigits_of_exponent_eq_zero (exact : (Scientific.ofDigits row).exponent = 0) :
    (Scientific.ofDigits row).significand = decimalValue row := by
  have nothingLeft : (appendDigits maxSignificand 0 row).2.length = 0 := Int.ofNat_inj.mp exact
  rw [decimalValue_eq]
  exact appendDigits_of_nothing_left (List.length_eq_zero_iff.mp nothingLeft)

theorem ofDigits_of_le (fits : decimalValue row ≤ maxSignificand) :
    Scientific.ofDigits row = ⟨decimalValue row, 0⟩ := by
  rw [decimalValue_eq] at fits ⊢
  rw [Scientific.ofDigits, appendDigits_of_le fits]
  rfl

theorem realNumber_ne_whole {negative : Bool} {number : Scientific} {whole : Int} :
    realNumber negative number text ≠ .ok (.whole whole, rest) := by
  unfold realNumber
  split <;> nofun

/-- Only a whole number is read as one: neither a point nor an exponent follows its digits, and
none of them is lost. -/
theorem magnitude_whole_sound {negative : Bool} {whole : Int}
    (success : magnitude negative text = .ok (.whole whole, rest)) :
    ∃ row, Whole text row rest ∧ ofSignificand negative (decimalValue row) = .whole whole := by
  obtain ⟨row, behind, read, continued⟩ := Reader.bind_eq_ok success
  obtain ⟨left, middle, same, continued⟩ := Reader.bind_eq_ok continued
  cases same
  split at continued
  · rename_i plain
    obtain ⟨number, rfl⟩ := Reader.pure_eq_ok continued
    rw [ofDigits_of_exponent_eq_zero plain.1] at number
    exact ⟨row, integerDigits_sound read, number⟩
  · obtain ⟨_, _, _, continued⟩ := Reader.bind_eq_ok continued
    obtain ⟨_, _, _, continued⟩ := Reader.bind_eq_ok continued
    exact absurd continued realNumber_ne_whole

theorem magnitude_whole_complete {negative : Bool} (form : Whole text row rest)
    (delimited : Delimited rest) (fits : decimalValue row ≤ maxSignificand) :
    magnitude negative text = .ok (ofSignificand negative (decimalValue row), rest) := by
  refine Reader.bind_eq_ok_iff.mpr
    ⟨row, rest, integerDigits_complete form delimited.noDigit, ?_⟩
  refine Reader.bind_eq_ok_iff.mpr ⟨rest, rest, rfl, ?_⟩
  rw [ofDigits_of_le fits, if_pos ⟨rfl, delimited.noContinuation⟩]
  rfl

theorem skipInteger_sound (success : skipInteger text = .ok ((), rest)) :
    ∃ row, Whole text row rest := by
  simp only [skipInteger] at success
  split at success
  · cases success
  · split at success
    · cases success
    · cases success
      exact ⟨['0'], .digits (.last rfl) fun _ => rfl⟩
  · rename_i first text noZero
    split at success
    · rename_i decimal
      have form : Digits (first :: text) _ _ := digits_of_takeWhile decimal
      rw [List.takeWhile_cons_of_pos decimal, List.dropWhile_cons_of_pos decimal] at form
      cases success
      refine ⟨_, .digits form fun leading => ?_⟩
      exact absurd (Option.some.inj leading) noZero
    · cases success

theorem skipInteger_complete (form : Whole text row rest)
    (ended : Document.startsWithDigit rest = false) : skipInteger text = .ok ((), rest) := by
  obtain ⟨form, noLeadingZero⟩ := form
  unfold skipInteger
  split
  · cases form
  · cases form with
    | last _ => simp [ended]
    | more _ later =>
        cases noLeadingZero rfl
        cases later
  · rename_i first text _
    have decimal : first.isDigit = true := form.startsWithDigit
    have left := (form.maximal ended).2
    rw [List.dropWhile_cons_of_pos decimal] at left
    rw [if_pos decimal, left]

theorem skipDigits_sound (success : skipDigits text = .ok ((), rest)) :
    ∃ row, Digits text row rest := by
  simp only [skipDigits] at success
  split at success
  · rename_i starts
    cases success
    exact ⟨_, digits_of_takeWhile starts⟩
  · cases success

theorem skipDigits_complete (form : Digits text row rest)
    (ended : Document.startsWithDigit rest = false) : skipDigits text = .ok ((), rest) := by
  rw [skipDigits, if_pos form.startsWithDigit, (form.maximal ended).2]

theorem skipFraction_sound (success : skipFraction text = .ok ((), rest)) :
    Fraction text rest := by
  simp only [skipFraction] at success
  split at success
  · obtain ⟨row, form⟩ := skipDigits_sound success
    exact .digits form
  · cases success
    exact .none

theorem exponentSign_sound (text : List Char) : Sign text (exponentSign text).2 := by
  unfold exponentSign
  split
  · exact .plus
  · exact .minus
  · exact .none

theorem skipExponent_sound (success : skipExponent text = .ok ((), rest)) :
    Exponent text rest := by
  simp only [skipExponent] at success
  split at success
  · cases success
    exact .none
  · split at success
    · rename_i marked
      obtain ⟨row, form⟩ := skipDigits_sound success
      simp only [isExponentMark, Bool.or_eq_true, beq_iff_eq] at marked
      exact .digits marked (exponentSign_sound _) form
    · cases success
      exact .none

theorem exponentSign_complete {unsigned : List Char} (sign : Sign text unsigned)
    (form : Digits unsigned row rest) : (exponentSign text).2 = unsigned := by
  cases sign with
  | none =>
      have starts := form.startsWithDigit
      unfold exponentSign
      split
      · contradiction
      · contradiction
      · rfl
  | plus => rfl
  | minus => rfl

theorem skipExponent_complete (form : Exponent text rest) (delimited : Delimited rest) :
    skipExponent text = .ok ((), rest) := by
  cases form with
  | none =>
      cases text with
      | nil => rfl
      | cons mark text =>
          have unmarked := delimited.noContinuation
          simp only [continuesReal, Bool.or_eq_false_iff] at unmarked
          simp [skipExponent, unmarked.2]
  | @digits mark _ _ _ _ marked sign form =>
      have isMark : isExponentMark mark = true := by
        simpa [isExponentMark] using marked
      rw [skipExponent, if_pos isMark, exponentSign_complete sign form]
      exact skipDigits_complete form delimited.noDigit

theorem Grammar.Exponent.noDigit (form : Exponent text rest) (delimited : Delimited rest) :
    Document.startsWithDigit text = false := by
  cases form with
  | none => exact delimited.noDigit
  | digits marked _ _ => rcases marked with rfl | rfl <;> rfl

theorem skipFraction_complete {behind : List Char} (form : Fraction text behind)
    (exponent : Exponent behind rest) (delimited : Delimited rest) :
    skipFraction text = .ok ((), behind) := by
  cases form with
  | digits form => exact skipDigits_complete form (exponent.noDigit delimited)
  | none =>
      unfold skipFraction
      split
      · cases exponent with
        | none => exact absurd delimited.noContinuation (by simp [continuesReal])
        | digits marked _ _ => rcases marked with marked | marked <;> contradiction
      · rfl

theorem Grammar.Fraction.noDigit {behind : List Char} (form : Fraction text behind)
    (exponent : Exponent behind rest) (delimited : Delimited rest) :
    Document.startsWithDigit text = false := by
  cases form with
  | none => exact exponent.noDigit delimited
  | digits _ => rfl

theorem skipMagnitude_sound (success : skipMagnitude text = .ok ((), rest)) :
    Unsigned text rest := by
  obtain ⟨_, behindWhole, whole, success⟩ := Reader.bind_eq_ok success
  obtain ⟨_, behindFraction, fraction, exponent⟩ := Reader.bind_eq_ok success
  obtain ⟨row, form⟩ := skipInteger_sound whole
  exact .parts form (skipFraction_sound fraction) (skipExponent_sound exponent)

theorem skipMagnitude_complete (form : Unsigned text rest) (delimited : Delimited rest) :
    skipMagnitude text = .ok ((), rest) := by
  cases form with
  | parts whole fraction exponent =>
      have wholeRead := skipInteger_complete whole (fraction.noDigit exponent delimited)
      have fractionRead := skipFraction_complete fraction exponent delimited
      have exponentRead := skipExponent_complete exponent delimited
      exact Reader.bind_eq_ok_iff.mpr ⟨_, _, wholeRead,
        Reader.bind_eq_ok_iff.mpr ⟨_, _, fractionRead, exponentRead⟩⟩

end GraphicsProfile.Document
