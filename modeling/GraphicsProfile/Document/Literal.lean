import GraphicsProfile.Document.Mark

/-!
String literals, from behind the opening quote through the closing one.

A literal that is kept is decoded: an escape stands for one character, and a character outside the
basic plane may be spelled by two escapes, its surrogate pair. A literal that is skipped is only
checked for its form, and there a surrogate needs no partner.
-/

namespace GraphicsProfile.Document

open GraphicsProfile.Text

def hexDigit? (char : Char) : Option Nat :=
  if '0' ≤ char ∧ char ≤ '9' then some (char.toNat - '0'.toNat)
  else if 'a' ≤ char ∧ char ≤ 'f' then some (char.toNat - 'a'.toNat + 10)
  else if 'A' ≤ char ∧ char ≤ 'F' then some (char.toNat - 'A'.toNat + 10)
  else none

/-- The number that four hexadecimal digits write. Four bytes are taken before any is looked at. -/
def fourHexDigits : Reader Nat := fun text =>
  if byteSize (text.take 4) < 4 then .error (Cause.endOfString.before [])
  else
    match text with
    | first :: second :: third :: fourth :: rest =>
      match hexDigit? first, hexDigit? second, hexDigit? third, hexDigit? fourth with
      | some a, some b, some c, some d => .ok (((a * 16 + b) * 16 + c) * 16 + d, rest)
      | _, _, _, _ => .error ⟨.invalidEscape, byteSize text - 4⟩
    | _ => .error ⟨.invalidEscape, byteSize text - 4⟩

def isLeadingSurrogate (unit : Nat) : Bool :=
  0xD800 ≤ unit && unit ≤ 0xDBFF

def isTrailingSurrogate (unit : Nat) : Bool :=
  0xDC00 ≤ unit && unit ≤ 0xDFFF

/-- The character that a surrogate pair stands for. -/
def ofSurrogates (leading trailing : Nat) : Char :=
  Char.ofNat (0x10000 + (leading - 0xD800) * 0x400 + (trailing - 0xDC00))

/-- A character that has to follow the first half of a surrogate pair. -/
def pairMark (expected : Char) : Reader Unit
  | [] => .error (Cause.endOfString.before [])
  | char :: rest =>
    if char = expected then .ok ((), rest)
    else .error (Cause.halfSurrogatePair.behindByte (char :: rest))

/-- The character that an escape by code point stands for, from behind its `u`. -/
def codePointEscape : Reader Char := do
  let unit ← fourHexDigits
  if isTrailingSurrogate unit then
    Reader.stop .loneSurrogate
  else if isLeadingSurrogate unit then
    pairMark '\\'
    pairMark 'u'
    let partner ← fourHexDigits
    if isTrailingSurrogate partner then
      pure (ofSurrogates unit partner)
    else
      Reader.stop .loneSurrogate
  else
    pure (Char.ofNat unit)

/-- The character that a two-character escape stands for. -/
def shortEscape? : Char → Option Char
  | '"' => some '"'
  | '\\' => some '\\'
  | '/' => some '/'
  | 'b' => some '\x08'
  | 'f' => some '\x0c'
  | 'n' => some '\n'
  | 'r' => some '\r'
  | 't' => some '\t'
  | _ => none

/-- The character that an escape stands for, from behind its backslash. -/
def escape : Reader Char
  | [] => .error (Cause.endOfString.before [])
  | 'u' :: rest => codePointEscape rest
  | char :: rest =>
    match shortEscape? char with
    | some meaning => .ok (meaning, rest)
    | none => .error (Cause.invalidEscape.behindByte (char :: rest))

def isBareControl (char : Char) : Bool :=
  char.toNat < 0x20

/-- Adds the next character of a literal to what has been decoded; the closing quote ends it. -/
def literalStep (decoded : String) : Reader (Option String)
  | [] => .error (Cause.endOfString.before [])
  | '"' :: rest => .ok (none, rest)
  | '\\' :: rest => do
    let (char, rest) ← escape rest
    return (some (decoded.push char), rest)
  | char :: rest =>
    if isBareControl char then .error (Cause.controlCharacter.before rest)
    else .ok (some (decoded.push char), rest)

def skipEscape : Reader Unit
  | [] => .error (Cause.endOfString.before [])
  | 'u' :: rest => do
    let (_, rest) ← fourHexDigits rest
    return ((), rest)
  | char :: rest =>
    if (shortEscape? char).isSome then .ok ((), rest)
    else .error (Cause.invalidEscape.behindByte (char :: rest))

def skipLiteralStep (_ : Unit) : Reader (Option Unit)
  | [] => .error (Cause.endOfString.before [])
  | '"' :: rest => .ok (none, rest)
  | '\\' :: rest => do
    let (_, rest) ← skipEscape rest
    return (some (), rest)
  | char :: rest =>
    if isBareControl char then .error (Cause.controlCharacter.before (char :: rest))
    else .ok (some (), rest)

theorem fourHexDigits_keeps : Reader.Keeps fourHexDigits := by
  intro text value rest success
  simp only [fourHexDigits] at success
  split at success
  · cases success
  · split at success
    · split at success
      · cases success
        exact ⟨[_, _, _, _], rfl⟩
      · cases success
    · cases success

theorem pairMark_keeps (expected : Char) : Reader.Keeps (pairMark expected) := by
  intro text value rest success
  cases text with
  | nil => cases success
  | cons char tail =>
    simp only [pairMark] at success
    split at success
    · cases success
      exact ⟨[char], rfl⟩
    · cases success

theorem codePointEscape_keeps : Reader.Keeps codePointEscape := by
  refine fourHexDigits_keeps.bind fun unit => ?_
  split
  · exact (Reader.stop_advances _).keeps
  · split
    · refine (pairMark_keeps _).bind fun _ => (pairMark_keeps _).bind fun _ => ?_
      refine fourHexDigits_keeps.bind fun partner => ?_
      split
      · exact Reader.Keeps.pure _
      · exact (Reader.stop_advances _).keeps
    · exact Reader.Keeps.pure _

theorem escape_keeps : Reader.Keeps escape := by
  intro text value rest success
  unfold escape at success
  split at success
  · cases success
  · obtain ⟨used, split⟩ := codePointEscape_keeps success
    exact ⟨'u' :: used, congrArg ('u' :: ·) split⟩
  · split at success
    · cases success
      exact ⟨[_], rfl⟩
    · cases success

theorem literalStep_progresses : Reader.Progresses literalStep := by
  intro decoded text next rest success
  unfold literalStep at success
  split at success
  · cases success
  · cases success
  · obtain ⟨⟨char, middle⟩, read, same⟩ := Reader.except_bind_eq_ok success
    cases same
    obtain ⟨used, split⟩ := escape_keeps read
    exact ⟨'\\', used, congrArg ('\\' :: ·) split⟩
  · split at success
    · cases success
    · cases success
      exact ⟨_, [], rfl⟩

theorem literalStep_keeps (decoded : String) : Reader.Keeps (literalStep decoded) := by
  intro text next rest success
  cases next with
  | some longer =>
    obtain ⟨char, used, split⟩ := literalStep_progresses success
    exact ⟨char :: used, split⟩
  | none =>
    unfold literalStep at success
    split at success
    · cases success
    · cases success
      exact ⟨['"'], rfl⟩
    · obtain ⟨_, _, same⟩ := Reader.except_bind_eq_ok success
      cases same
    · split at success <;> cases success

/-- The text of a literal, from behind its opening quote. -/
def literal : Reader String :=
  Reader.run literalStep literalStep_progresses ""

theorem literal_keeps : Reader.Keeps literal :=
  Reader.run_keeps literalStep_progresses literalStep_keeps ""

theorem skipEscape_keeps : Reader.Keeps skipEscape := by
  intro text value rest success
  unfold skipEscape at success
  split at success
  · cases success
  · obtain ⟨⟨unit, middle⟩, read, same⟩ := Reader.except_bind_eq_ok success
    cases same
    obtain ⟨used, split⟩ := fourHexDigits_keeps read
    exact ⟨'u' :: used, congrArg ('u' :: ·) split⟩
  · split at success
    · cases success
      exact ⟨[_], rfl⟩
    · cases success

theorem skipLiteralStep_progresses : Reader.Progresses skipLiteralStep := by
  intro state text next rest success
  unfold skipLiteralStep at success
  split at success
  · cases success
  · cases success
  · obtain ⟨⟨_, middle⟩, read, same⟩ := Reader.except_bind_eq_ok success
    cases same
    obtain ⟨used, split⟩ := skipEscape_keeps read
    exact ⟨'\\', used, congrArg ('\\' :: ·) split⟩
  · split at success
    · cases success
    · cases success
      exact ⟨_, [], rfl⟩

theorem skipLiteralStep_keeps (state : Unit) : Reader.Keeps (skipLiteralStep state) := by
  intro text next rest success
  cases next with
  | some _ =>
    obtain ⟨char, used, split⟩ := skipLiteralStep_progresses success
    exact ⟨char :: used, split⟩
  | none =>
    unfold skipLiteralStep at success
    split at success
    · cases success
    · cases success
      exact ⟨['"'], rfl⟩
    · obtain ⟨_, _, same⟩ := Reader.except_bind_eq_ok success
      cases same
    · split at success <;> cases success

def skipLiteral : Reader Unit :=
  Reader.run skipLiteralStep skipLiteralStep_progresses ()

theorem skipLiteral_keeps : Reader.Keeps skipLiteral :=
  Reader.run_keeps skipLiteralStep_progresses skipLiteralStep_keeps ()

end GraphicsProfile.Document
