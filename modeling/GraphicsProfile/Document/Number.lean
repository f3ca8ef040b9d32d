import GraphicsProfile.Document.Mark

/-!
Number literals.

Digits are gathered in a significand of 64 bits, and the decimal exponent says where the point
stands. A literal without point and exponent whose digits all fit is a whole number. Any other
literal is a real number: its significand is converted to a double and then scaled by powers of
ten in double arithmetic, which need not give the double next to the literal's value.

A number that is skipped is checked for its form alone.
-/

namespace GraphicsProfile.Document

inductive Number where
  | whole (value : Int)
  | real (value : Float)
  deriving DecidableEq

/-- The quantity `significand * 10 ^ exponent`. -/
structure Scientific where
  significand : Nat
  exponent : Int
  deriving DecidableEq

def maxSignificand : Nat := 0xFFFFFFFFFFFFFFFF

def maxExponent : Nat := 0x7FFFFFFF

def digitValue (digit : Char) : Nat :=
  digit.toNat - '0'.toNat

/-- Appends digits to a number as long as it stays within the limit. The digits from the first one
on that does not fit are left over. -/
def appendDigits (limit value : Nat) : List Char → Nat × List Char
  | [] => (value, [])
  | digit :: more =>
    if value * 10 + digitValue digit ≤ limit then
      appendDigits limit (value * 10 + digitValue digit) more
    else
      (value, digit :: more)

def startsWithDigit : List Char → Bool
  | [] => false
  | char :: _ => char.isDigit

def digits : Reader (List Char)
  | [] => .error (Cause.endOfValue.before [])
  | first :: rest =>
    if first.isDigit then
      .ok (first :: rest.takeWhile Char.isDigit, rest.dropWhile Char.isDigit)
    else
      .error (Cause.invalidNumber.behindByte (first :: rest))

/-- The digits in front of the point. A leading zero stands alone. -/
def integerDigits : Reader (List Char)
  | '0' :: rest =>
    if startsWithDigit rest then .error (Cause.invalidNumber.behindByte rest)
    else .ok (['0'], rest)
  | text => digits text

/-- A whole number from its digits. Those that do not fit count as powers of ten. -/
def Scientific.ofDigits (digits : List Char) : Scientific :=
  let taken := appendDigits maxSignificand 0 digits
  ⟨taken.1, taken.2.length⟩

/-- Appends the digits of a fraction. Each digit that fits lowers the exponent by one, and those
that do not fit are dropped. -/
def Scientific.appendFraction (number : Scientific) (digits : List Char) : Scientific :=
  let taken := appendDigits maxSignificand number.significand digits
  ⟨taken.1, number.exponent - (digits.length - taken.2.length : Nat)⟩

def fractionPart (number : Scientific) : Reader Scientific
  | '.' :: rest => (number.appendFraction <$> digits : Reader Scientific) rest
  | text => .ok (number, text)

def isExponentMark (char : Char) : Bool :=
  char == 'e' || char == 'E'

/-- Takes the sign of an exponent and tells whether it is negative. -/
def exponentSign : List Char → Bool × List Char
  | '+' :: rest => (false, rest)
  | '-' :: rest => (true, rest)
  | rest => (false, rest)

/-- Raises the exponent by what the digits write, or lowers it. An exponent beyond 31 bits makes
zero of a number that it shrinks and cannot be had for a number that it enlarges; this shows at
the first digit that does not fit. -/
def raiseExponent (number : Scientific) (negative : Bool) (digits : List Char) :
    Reader Scientific := fun rest =>
  let taken := appendDigits maxExponent 0 digits
  match taken.2 with
  | [] =>
    let shift : Int := taken.1
    .ok (⟨number.significand, number.exponent + if negative then -shift else shift⟩, rest)
  | _ :: surplus =>
    if number.significand = 0 ∨ negative then .ok (⟨0, 0⟩, rest)
    else .error (Cause.numberOutOfRange.before (surplus ++ rest))

def exponentDigits (number : Scientific) : Reader Scientific := fun text => do
  let (taken, rest) ← digits (exponentSign text).2
  raiseExponent number (exponentSign text).1 taken rest

def exponentPart (number : Scientific) : Reader Scientific
  | [] => .ok (number, [])
  | mark :: rest =>
    if isExponentMark mark then exponentDigits number rest else .ok (number, mark :: rest)

/-- The double next to a power of ten. -/
def powerOfTen (exponent : Nat) : Float :=
  .ofScientific 1 false exponent

def greatestPower : Nat := 308

/-- Multiplies a double by a power of ten. What is too small becomes zero by and by, and what is
too large has no value. -/
def scale? (value : Float) (exponent : Int) : Option Float :=
  if exponent.natAbs ≤ greatestPower then
    if 0 ≤ exponent then
      let scaled := value * powerOfTen exponent.toNat
      if scaled.isInf then none else some scaled
    else
      some (value / powerOfTen exponent.natAbs)
  else if value == 0 then
    some value
  else if 0 ≤ exponent then
    none
  else
    scale? (value / powerOfTen greatestPower) (exponent + greatestPower)
termination_by exponent.natAbs
decreasing_by
  simp only [greatestPower] at *
  omega

def Scientific.toFloat? (number : Scientific) : Option Float :=
  scale? (.ofNat number.significand) number.exponent

/-- Whether a point or an exponent follows, which makes a number a real one. -/
def continuesReal : List Char → Bool
  | [] => false
  | char :: _ => char == '.' || isExponentMark char

/-- The number with the given sign and no fraction. A negative one is whole if 64 bits hold it with
its sign; negative zero is real. -/
def ofSignificand (negative : Bool) (significand : Nat) : Number :=
  if !negative then .whole significand
  else if 0 < significand ∧ significand ≤ 0x8000000000000000 then .whole (-significand)
  else .real (-Float.ofNat significand)

def realNumber (negative : Bool) (number : Scientific) : Reader Number := fun text =>
  match number.toFloat? with
  | some value => .ok (.real (if negative then -value else value), text)
  | none => .error (Cause.numberOutOfRange.before text)

def magnitude (negative : Bool) : Reader Number := do
  let whole := Scientific.ofDigits (← integerDigits)
  if whole.exponent = 0 ∧ continuesReal (← get) = false then
    return ofSignificand negative whole.significand
  else
    let decimal ← fractionPart whole
    let number ← exponentPart decimal
    realNumber negative number

def number : Reader Number
  | '-' :: rest => magnitude true rest
  | text => magnitude false text

def skipInteger : Reader Unit
  | [] => .error (Cause.invalidNumber.before [])
  | '0' :: rest =>
    if startsWithDigit rest then .error (Cause.invalidNumber.behindByte rest) else .ok ((), rest)
  | first :: rest =>
    if first.isDigit then .ok ((), rest.dropWhile Char.isDigit)
    else .error (Cause.invalidNumber.behindByte (first :: rest))

def skipDigits : Reader Unit := fun text =>
  if startsWithDigit text then .ok ((), text.dropWhile Char.isDigit)
  else .error (Cause.invalidNumber.behindByte text)

def skipFraction : Reader Unit
  | '.' :: rest => skipDigits rest
  | text => .ok ((), text)

def skipExponent : Reader Unit
  | [] => .ok ((), [])
  | mark :: rest =>
    if isExponentMark mark then skipDigits (exponentSign rest).2 else .ok ((), mark :: rest)

def skipMagnitude : Reader Unit := do
  skipInteger
  skipFraction
  skipExponent

theorem digits_split (text : List Char) :
    ∃ digits, text = digits ++ text.dropWhile Char.isDigit :=
  ⟨text.takeWhile Char.isDigit, List.takeWhile_append_dropWhile.symm⟩

theorem digits_advances : Reader.Advances digits := by
  intro text value rest success
  unfold digits at success
  split at success
  · cases success
  · split at success
    · cases success
      obtain ⟨more, split⟩ := digits_split _
      exact ⟨_, more, congrArg (_ :: ·) split⟩
    · cases success

theorem integerDigits_advances : Reader.Advances integerDigits := by
  intro text value rest success
  unfold integerDigits at success
  split at success
  · split at success
    · cases success
    · cases success
      exact ⟨'0', [], rfl⟩
  · exact digits_advances success

theorem fractionPart_keeps (number : Scientific) : Reader.Keeps (fractionPart number) := by
  intro text value rest success
  unfold fractionPart at success
  split at success
  · obtain ⟨⟨_, middle⟩, read, same⟩ := Reader.except_bind_eq_ok success
    cases same
    obtain ⟨char, used, split⟩ := digits_advances read
    exact ⟨'.' :: char :: used, congrArg ('.' :: ·) split⟩
  · cases success
    exact ⟨[], rfl⟩

theorem exponentSign_keeps (text : List Char) : ∃ sign, text = sign ++ (exponentSign text).2 := by
  unfold exponentSign
  split
  · exact ⟨['+'], rfl⟩
  · exact ⟨['-'], rfl⟩
  · exact ⟨[], rfl⟩

theorem raiseExponent_keeps (number : Scientific) (negative : Bool) (digits : List Char) :
    Reader.Keeps (raiseExponent number negative digits) := by
  intro text value rest success
  unfold raiseExponent at success
  dsimp only at success
  split at success
  · cases success
    exact ⟨[], rfl⟩
  · split at success
    · cases success
      exact ⟨[], rfl⟩
    · cases success

theorem exponentDigits_keeps (number : Scientific) : Reader.Keeps (exponentDigits number) := by
  intro text value rest success
  obtain ⟨⟨taken, middle⟩, read, raised⟩ := Reader.except_bind_eq_ok success
  obtain ⟨sign, signed⟩ := exponentSign_keeps text
  obtain ⟨char, used, split⟩ := digits_advances read
  obtain ⟨more, again⟩ := raiseExponent_keeps _ _ _ raised
  exact ⟨sign ++ char :: used ++ more, by rw [signed, split, again]; simp⟩

theorem exponentPart_keeps (number : Scientific) : Reader.Keeps (exponentPart number) := by
  intro text value rest success
  unfold exponentPart at success
  split at success
  · cases success
    exact ⟨[], rfl⟩
  · split at success
    · obtain ⟨used, split⟩ := exponentDigits_keeps number success
      exact ⟨_ :: used, congrArg (_ :: ·) split⟩
    · cases success
      exact ⟨[], rfl⟩

theorem realNumber_keeps (negative : Bool) (number : Scientific) :
    Reader.Keeps (realNumber negative number) := by
  intro text value rest success
  unfold realNumber at success
  split at success
  · cases success
    exact ⟨[], rfl⟩
  · cases success

theorem magnitude_advances (negative : Bool) : Reader.Advances (magnitude negative) := by
  refine integerDigits_advances.bind fun taken => ?_
  intro text value rest success
  obtain ⟨behind, middle, same, read⟩ := Reader.bind_eq_ok success
  cases same
  split at read
  · exact Reader.Keeps.pure _ read
  · have parts : Reader.Keeps (do
        let decimal ← fractionPart (.ofDigits taken)
        let number ← exponentPart decimal
        realNumber negative number) :=
      (fractionPart_keeps _).bind fun decimal => (exponentPart_keeps decimal).bind fun number =>
        realNumber_keeps negative number
    exact parts read

theorem number_advances : Reader.Advances number := by
  intro text value rest success
  unfold number at success
  split at success
  · obtain ⟨char, used, split⟩ := magnitude_advances true success
    exact ⟨'-', char :: used, congrArg ('-' :: ·) split⟩
  · exact magnitude_advances false success

theorem skipInteger_advances : Reader.Advances skipInteger := by
  intro text value rest success
  unfold skipInteger at success
  split at success
  · cases success
  · split at success
    · cases success
    · cases success
      exact ⟨'0', [], rfl⟩
  · split at success
    · cases success
      obtain ⟨digits, split⟩ := digits_split _
      exact ⟨_, digits, congrArg (_ :: ·) split⟩
    · cases success

theorem skipDigits_keeps : Reader.Keeps skipDigits := by
  intro text value rest success
  unfold skipDigits at success
  split at success
  · cases success
    exact digits_split text
  · cases success

theorem skipFraction_keeps : Reader.Keeps skipFraction := by
  intro text value rest success
  unfold skipFraction at success
  split at success
  · obtain ⟨used, split⟩ := skipDigits_keeps success
    exact ⟨'.' :: used, congrArg ('.' :: ·) split⟩
  · cases success
    exact ⟨[], rfl⟩

theorem skipExponent_keeps : Reader.Keeps skipExponent := by
  intro text value rest success
  unfold skipExponent at success
  split at success
  · cases success
    exact ⟨[], rfl⟩
  · split at success
    · rename_i mark tail _
      obtain ⟨sign, signed⟩ := exponentSign_keeps tail
      obtain ⟨used, split⟩ := skipDigits_keeps success
      exact ⟨mark :: (sign ++ used), by rw [signed, split]; simp⟩
    · cases success
      exact ⟨[], rfl⟩

theorem skipMagnitude_advances : Reader.Advances skipMagnitude :=
  skipInteger_advances.bind fun _ => skipFraction_keeps.bind fun _ => skipExponent_keeps

end GraphicsProfile.Document
