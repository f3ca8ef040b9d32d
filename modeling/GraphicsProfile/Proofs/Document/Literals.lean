import GraphicsProfile.Document.Literal
import GraphicsProfile.Proofs.Document.Marks

namespace GraphicsProfile.Document

open Grammar Text

variable {text middle rest : List Char} {char digit mark : Char} {unit value : Nat}

theorem Grammar.HexDigit.lt (written : HexDigit digit value) : value < 16 := by
  rcases written with lower | upper
  · exact (List.getElem?_eq_some_iff.mp lower).1
  · exact (List.getElem?_eq_some_iff.mp upper).1

/-- A run of an alphabet holds the characters from its first one on. -/
theorem getElem?_of_run {alphabet : List Char} {first last : Char} {start : Nat}
    (run : ∀ offset ≤ last.toNat - first.toNat,
      alphabet[offset + start]? = some (Char.ofNat (first.toNat + offset)))
    (range : first ≤ digit ∧ digit ≤ last) :
    alphabet[digit.toNat - first.toNat + start]? = some digit := by
  have lower : first.toNat ≤ digit.toNat := range.1
  have upper : digit.toNat ≤ last.toNat := range.2
  have found := run (digit.toNat - first.toNat) (Nat.sub_le_sub_right upper _)
  rwa [Nat.add_sub_cancel' lower, Char.ofNat_toNat] at found

theorem hexDigit?_eq_some_iff : hexDigit? digit = some value ↔ HexDigit digit value := by
  refine ⟨fun read => ?_, fun written => ?_⟩
  · unfold hexDigit? at read
    split at read
    · rename_i decimal
      cases read
      have run : ∀ offset ≤ '9'.toNat - '0'.toNat, "0123456789abcdef".toList[offset + 0]? =
          some (Char.ofNat ('0'.toNat + offset)) := by decide
      exact .inl (getElem?_of_run run decimal)
    · split at read
      · rename_i lower
        cases read
        have run : ∀ offset ≤ 'f'.toNat - 'a'.toNat, "0123456789abcdef".toList[offset + 10]? =
            some (Char.ofNat ('a'.toNat + offset)) := by decide
        exact .inl (getElem?_of_run run lower)
      · split at read
        · rename_i upper
          cases read
          have run : ∀ offset ≤ 'F'.toNat - 'A'.toNat, "0123456789ABCDEF".toList[offset + 10]? =
              some (Char.ofNat ('A'.toNat + offset)) := by decide
          exact .inr (getElem?_of_run run upper)
        · cases read
  · have below := written.lt
    rcases written with lower | upper
    · have all : ∀ value < 16,
          "0123456789abcdef".toList[value]?.bind hexDigit? = some value := by decide
      have read := all value below
      rwa [lower] at read
    · have all : ∀ value < 16,
          "0123456789ABCDEF".toList[value]?.bind hexDigit? = some value := by decide
      have read := all value below
      rwa [upper] at read

theorem shortEscape?_eq_some_iff : shortEscape? mark = some char ↔ (mark, char) ∈ shortEscapes := by
  refine ⟨fun known => ?_, fun listed => ?_⟩
  · unfold shortEscape? at known
    split at known <;> cases known <;> decide
  · simp only [shortEscapes, List.mem_cons, List.not_mem_nil, or_false, Prod.mk.injEq] at listed
    rcases listed with ⟨rfl, rfl⟩ | ⟨rfl, rfl⟩ | ⟨rfl, rfl⟩ | ⟨rfl, rfl⟩ | ⟨rfl, rfl⟩ |
      ⟨rfl, rfl⟩ | ⟨rfl, rfl⟩ | ⟨rfl, rfl⟩ <;> rfl

theorem Grammar.HexQuad.lt (quad : HexQuad text unit rest) : unit < 0x10000 := by
  cases quad with
  | digits first second third fourth =>
      have := first.lt
      have := second.lt
      have := third.lt
      have := fourth.lt
      omega

theorem four_le_byteSize (first second third fourth : Char) (text : List Char) :
    ¬ byteSize ((first :: second :: third :: fourth :: text).take 4) < 4 := by
  have := first.utf8Size_pos
  have := second.utf8Size_pos
  have := third.utf8Size_pos
  have := fourth.utf8Size_pos
  simp only [List.take_succ_cons, List.take_zero, byteSize_cons, byteSize_nil]
  omega

theorem fourHexDigits_eq_ok_iff :
    fourHexDigits text = .ok (unit, rest) ↔ HexQuad text unit rest := by
  refine ⟨fun success => ?_, fun quad => ?_⟩
  · simp only [fourHexDigits] at success
    split at success
    · contradiction
    · split at success
      · split at success
        · rename_i a b c d first second third fourth
          cases success
          have value : ((a * 16 + b) * 16 + c) * 16 + d =
              a * 0x1000 + b * 0x100 + c * 0x10 + d := by
            omega
          rw [value]
          exact .digits (hexDigit?_eq_some_iff.mp first) (hexDigit?_eq_some_iff.mp second)
            (hexDigit?_eq_some_iff.mp third) (hexDigit?_eq_some_iff.mp fourth)
        · contradiction
      · contradiction
  · cases quad with
    | @digits _ _ _ _ a b c d _ first second third fourth =>
        have value : a * 0x1000 + b * 0x100 + c * 0x10 + d = ((a * 16 + b) * 16 + c) * 16 + d := by
          omega
        rw [← hexDigit?_eq_some_iff] at first second third fourth
        simp only [fourHexDigits, four_le_byteSize, if_false, first, second, third, fourth, value]

theorem pairMark_eq_ok_iff {expected : Char} :
    pairMark expected text = .ok ((), rest) ↔ text = expected :: rest := by
  cases text with
  | nil => simp [pairMark]
  | cons char text =>
      by_cases same : char = expected
      · simp [pairMark, same]
      · simp [pairMark, same]

theorem toNat_ofNat_of_valid {value : Nat} (valid : value.isValidChar) :
    (Char.ofNat value).toNat = value := by
  rw [Char.ofNat, dif_pos valid]
  rfl

theorem toNat_ofSurrogates {high low : Nat} (highBits : high < 0x400) (lowBits : low < 0x400) :
    (ofSurrogates (0xD800 + high) (0xDC00 + low)).toNat = 0x10000 + high * 0x400 + low := by
  have whole : 0x10000 + (0xD800 + high - 0xD800) * 0x400 + (0xDC00 + low - 0xDC00) =
      0x10000 + high * 0x400 + low := by omega
  rw [ofSurrogates, whole]
  exact toNat_ofNat_of_valid (.inr ⟨by omega, by omega⟩)

theorem codePointEscape_sound (success : codePointEscape text = .ok (char, rest)) :
    Piece ('\\' :: 'u' :: text) char rest := by
  obtain ⟨unit, behind, first, continued⟩ := Reader.bind_eq_ok success
  have leading := fourHexDigits_eq_ok_iff.mp first
  have range := leading.lt
  split at continued
  · contradiction
  · rename_i noTrailing
    simp only [isTrailingSurrogate, Bool.and_eq_true, decide_eq_true_eq] at noTrailing
    split at continued
    · rename_i isLeading
      simp only [isLeadingSurrogate, Bool.and_eq_true, decide_eq_true_eq] at isLeading
      obtain ⟨_, afterSlash, slash, continued⟩ := Reader.bind_eq_ok continued
      obtain ⟨_, afterMark, mark, continued⟩ := Reader.bind_eq_ok continued
      obtain ⟨partner, behindPair, second, continued⟩ := Reader.bind_eq_ok continued
      have trailing := fourHexDigits_eq_ok_iff.mp second
      split at continued
      · rename_i isTrailing
        simp only [isTrailingSurrogate, Bool.and_eq_true, decide_eq_true_eq] at isTrailing
        obtain ⟨same, rfl⟩ := Reader.pure_eq_ok continued
        obtain ⟨high, rfl⟩ := Nat.exists_eq_add_of_le isLeading.1
        obtain ⟨low, rfl⟩ := Nat.exists_eq_add_of_le isTrailing.1
        rw [pairMark_eq_ok_iff.mp slash, pairMark_eq_ok_iff.mp mark] at leading
        refine .pair leading trailing (by omega) ?_
        rw [← same]
        exact toNat_ofSurrogates (by omega) (by omega)
      · contradiction
    · rename_i noLeading
      simp only [isLeadingSurrogate, Bool.and_eq_true, decide_eq_true_eq] at noLeading
      obtain ⟨rfl, rfl⟩ := Reader.pure_eq_ok continued
      have valid : unit.isValidChar := by
        simp only [Nat.isValidChar]
        omega
      exact .codePoint ((toNat_ofNat_of_valid valid).symm ▸ leading)

theorem codePointEscape_of_codePoint (written : HexQuad text char.toNat rest) :
    codePointEscape text = .ok (char, rest) := by
  have valid : char.toNat < 0xD800 ∨ 0xDFFF < char.toNat ∧ char.toNat < 0x110000 := char.valid
  have noTrailing : isTrailingSurrogate char.toNat = false := by
    simp only [isTrailingSurrogate, Bool.and_eq_false_iff, decide_eq_false_iff_not]
    omega
  have noLeading : isLeadingSurrogate char.toNat = false := by
    simp only [isLeadingSurrogate, Bool.and_eq_false_iff, decide_eq_false_iff_not]
    omega
  refine Reader.bind_eq_ok_iff.mpr ⟨_, _, fourHexDigits_eq_ok_iff.mpr written, ?_⟩
  simp only [noTrailing, noLeading, Bool.false_eq_true, if_false, Char.ofNat_toNat]
  rfl

theorem codePointEscape_of_pair {high low : Nat}
    (leading : HexQuad text (0xD800 + high) ('\\' :: 'u' :: middle))
    (trailing : HexQuad middle (0xDC00 + low) rest) (lowBits : low < 0x400)
    (whole : char.toNat = 0x10000 + high * 0x400 + low) :
    codePointEscape text = .ok (char, rest) := by
  have valid : char.toNat < 0xD800 ∨ 0xDFFF < char.toNat ∧ char.toNat < 0x110000 := char.valid
  have highBits : high < 0x400 := by omega
  have noTrailing : isTrailingSurrogate (0xD800 + high) = false := by
    simp only [isTrailingSurrogate, Bool.and_eq_false_iff, decide_eq_false_iff_not]
    omega
  have isLeading : isLeadingSurrogate (0xD800 + high) = true := by
    simp only [isLeadingSurrogate, Bool.and_eq_true, decide_eq_true_eq]
    omega
  have isTrailing : isTrailingSurrogate (0xDC00 + low) = true := by
    simp only [isTrailingSurrogate, Bool.and_eq_true, decide_eq_true_eq]
    omega
  have same : ofSurrogates (0xD800 + high) (0xDC00 + low) = char := by
    rw [← Char.toNat_inj, toNat_ofSurrogates highBits lowBits, whole]
  refine Reader.bind_eq_ok_iff.mpr ⟨_, _, fourHexDigits_eq_ok_iff.mpr leading, ?_⟩
  simp only [noTrailing, isLeading, Bool.false_eq_true, if_false, if_true]
  refine Reader.bind_eq_ok_iff.mpr ⟨_, _, pairMark_eq_ok_iff.mpr rfl, ?_⟩
  refine Reader.bind_eq_ok_iff.mpr ⟨_, _, pairMark_eq_ok_iff.mpr rfl, ?_⟩
  refine Reader.bind_eq_ok_iff.mpr ⟨_, _, fourHexDigits_eq_ok_iff.mpr trailing, ?_⟩
  simp only [isTrailing, if_true, same]
  rfl

theorem escape_eq_ok_iff : escape text = .ok (char, rest) ↔ Piece ('\\' :: text) char rest := by
  refine ⟨fun success => ?_, fun piece => ?_⟩
  · simp only [escape] at success
    split at success
    · contradiction
    · exact codePointEscape_sound success
    · split at success
      · rename_i known
        cases success
        exact .short (shortEscape?_eq_some_iff.mp known)
      · contradiction
  · cases piece with
    | plain _ noEscape _ => exact absurd rfl noEscape
    | @short mark _ _ known =>
        rw [← shortEscape?_eq_some_iff] at known
        -- The equation for a mark other than `u` asks for this.
        have notCodePoint : mark ≠ 'u' := by
          rintro rfl
          contradiction
        simp only [escape, known]
    | codePoint written => exact codePointEscape_of_codePoint written
    | pair leading trailing lowBits whole =>
        exact codePointEscape_of_pair leading trailing lowBits whole

theorem literalStep_eq_none_iff {decoded : String} :
    literalStep decoded text = .ok (none, rest) ↔ text = '"' :: rest := by
  constructor
  · intro success
    simp only [literalStep] at success
    split at success
    · contradiction
    · cases success
      rfl
    · obtain ⟨_, _, returned⟩ := Reader.except_bind_eq_ok success
      cases returned
    · split at success <;> cases success
  · rintro rfl
    rfl

theorem literalStep_eq_some_iff {decoded longer : String} :
    literalStep decoded text = .ok (some longer, rest) ↔
      ∃ char, Piece text char rest ∧ longer = decoded.push char := by
  refine ⟨fun success => ?_, fun given => ?_⟩
  · simp only [literalStep] at success
    split at success
    · cases success
    · cases success
    · obtain ⟨⟨char, behind⟩, read, returned⟩ := Reader.except_bind_eq_ok success
      cases returned
      exact ⟨char, escape_eq_ok_iff.mp read, rfl⟩
    · rename_i char tail noQuote noEscape
      split at success
      · contradiction
      · rename_i noControl
        cases success
        simp only [isBareControl, decide_eq_true_eq, Nat.not_lt] at noControl
        exact ⟨char, .plain noQuote noEscape noControl, rfl⟩
  · obtain ⟨char, piece, rfl⟩ := given
    have escaped : ∀ {tail}, Piece ('\\' :: tail) char rest →
        literalStep decoded ('\\' :: tail) = .ok (some (decoded.push char), rest) := fun piece =>
      Reader.except_bind_eq_ok_iff.mpr ⟨_, escape_eq_ok_iff.mpr piece, rfl⟩
    cases piece with
    | plain noQuote noEscape noControl =>
        have noBareControl : isBareControl char = false := by
          simpa [isBareControl] using noControl
        simp [literalStep, noBareControl]
    | short known => exact escaped (.short known)
    | codePoint written => exact escaped (.codePoint written)
    | pair leading trailing lowBits whole => exact escaped (.pair leading trailing lowBits whole)

theorem literalRun_sound {decoded spelled : String}
    (success : Reader.run literalStep literalStep_progresses decoded text = .ok (spelled, rest)) :
    ∃ more, Literal text more rest ∧ spelled.toList = decoded.toList ++ more := by
  fun_induction Reader.run literalStep literalStep_progresses decoded text with
  | case1 => contradiction
  | case2 decoded text behind ended =>
      cases success
      rw [literalStep_eq_none_iff.mp ended]
      exact ⟨[], .close, (List.append_nil _).symm⟩
  | case3 decoded text longer middle continued ih =>
      obtain ⟨char, piece, rfl⟩ := literalStep_eq_some_iff.mp continued
      obtain ⟨more, later, whole⟩ := ih success
      exact ⟨char :: more, .piece piece later, by simp [whole]⟩

theorem literalRun_complete {decoded spelled : String} {more : List Char}
    (form : Literal text more rest) (whole : spelled.toList = decoded.toList ++ more) :
    Reader.run literalStep literalStep_progresses decoded text = .ok (spelled, rest) := by
  induction form generalizing decoded with
  | close =>
      rw [List.append_nil] at whole
      rw [Reader.run_of_none (literalStep_eq_none_iff.mpr rfl), String.toList_inj.mp whole]
  | piece first _ ih =>
      rw [Reader.run_of_some (literalStep_eq_some_iff.mpr ⟨_, first, rfl⟩)]
      exact ih (by simp [whole])

/-- A literal is read if and only if the grammar spells it, and as the text that it spells. -/
theorem literal_eq_ok_iff {spelled : String} :
    literal text = .ok (spelled, rest) ↔ Literal text spelled.toList rest := by
  constructor
  · intro success
    obtain ⟨more, form, whole⟩ := literalRun_sound success
    rwa [whole]
  · exact fun form => literalRun_complete form rfl

theorem skipEscape_eq_ok_iff :
    skipEscape text = .ok ((), rest) ↔ LoosePiece ('\\' :: text) rest := by
  refine ⟨fun success => ?_, fun piece => ?_⟩
  · simp only [skipEscape] at success
    split at success
    · contradiction
    · obtain ⟨⟨unit, behind⟩, read, returned⟩ := Reader.except_bind_eq_ok success
      cases returned
      exact .codePoint (fourHexDigits_eq_ok_iff.mp read)
    · split at success
      · rename_i known
        cases success
        obtain ⟨meaning, known⟩ := Option.isSome_iff_exists.mp known
        exact .short (shortEscape?_eq_some_iff.mp known)
      · contradiction
  · cases piece with
    | plain _ noEscape _ => exact absurd rfl noEscape
    | @short mark _ _ known =>
        rw [← shortEscape?_eq_some_iff] at known
        -- The equation for a mark other than `u` asks for this.
        have notCodePoint : mark ≠ 'u' := by
          rintro rfl
          contradiction
        simp [skipEscape, known]
    | codePoint written =>
        exact Reader.except_bind_eq_ok_iff.mpr ⟨_, fourHexDigits_eq_ok_iff.mpr written, rfl⟩

theorem skipLiteralStep_eq_none_iff :
    skipLiteralStep () text = .ok (none, rest) ↔ text = '"' :: rest := by
  constructor
  · intro success
    simp only [skipLiteralStep] at success
    split at success
    · contradiction
    · cases success
      rfl
    · obtain ⟨_, _, returned⟩ := Reader.except_bind_eq_ok success
      cases returned
    · split at success <;> cases success
  · rintro rfl
    rfl

theorem skipLiteralStep_eq_some_iff :
    skipLiteralStep () text = .ok (some (), rest) ↔ LoosePiece text rest := by
  refine ⟨fun success => ?_, fun piece => ?_⟩
  · simp only [skipLiteralStep] at success
    split at success
    · cases success
    · cases success
    · obtain ⟨_, read, returned⟩ := Reader.except_bind_eq_ok success
      cases returned
      exact skipEscape_eq_ok_iff.mp read
    · rename_i noQuote noEscape
      split at success
      · contradiction
      · rename_i noControl
        cases success
        simp only [isBareControl, decide_eq_true_eq, Nat.not_lt] at noControl
        exact .plain noQuote noEscape noControl
  · have escaped : ∀ {tail}, LoosePiece ('\\' :: tail) rest →
        skipLiteralStep () ('\\' :: tail) = .ok (some (), rest) := fun piece =>
      Reader.except_bind_eq_ok_iff.mpr ⟨_, skipEscape_eq_ok_iff.mpr piece, rfl⟩
    cases piece with
    | @plain char _ noQuote noEscape noControl =>
        have noBareControl : isBareControl char = false := by
          simpa [isBareControl] using noControl
        simp [skipLiteralStep, noBareControl]
    | short known => exact escaped (.short known)
    | codePoint written => exact escaped (.codePoint written)

theorem skipLiteral_sound (success : skipLiteral text = .ok ((), rest)) :
    LooseLiteral text rest := by
  simp only [skipLiteral] at success
  fun_induction Reader.run skipLiteralStep skipLiteralStep_progresses () text with
  | case1 => contradiction
  | case2 _ text behind ended =>
      cases success
      rw [skipLiteralStep_eq_none_iff.mp ended]
      exact .close
  | case3 _ text _ middle continued ih =>
      exact .piece (skipLiteralStep_eq_some_iff.mp continued) (ih success)

theorem skipLiteral_complete (form : LooseLiteral text rest) :
    skipLiteral text = .ok ((), rest) := by
  unfold skipLiteral
  induction form with
  | close => exact Reader.run_of_none (skipLiteralStep_eq_none_iff.mpr rfl)
  | piece first _ ih =>
      rw [Reader.run_of_some (skipLiteralStep_eq_some_iff.mpr first)]
      exact ih

theorem skipLiteral_eq_ok_iff : skipLiteral text = .ok ((), rest) ↔ LooseLiteral text rest :=
  ⟨skipLiteral_sound, skipLiteral_complete⟩

end GraphicsProfile.Document
