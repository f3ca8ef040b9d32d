import GraphicsProfile.Proofs.Document.Endings
import GraphicsProfile.Proofs.Document.Literals

namespace GraphicsProfile.Document

open Grammar Reader Text

variable {follows exempt : List Char → Prop} {left right : Char} {text rest : List Char}

theorem Alike.shortEscape? (alike : Alike left right) :
    shortEscape? left = shortEscape? right := by
  refine alike.congr none fun known => ?_
  unfold Document.shortEscape? at known
  split at known <;> first | rfl | contradiction

theorem Alike.isBareControl (alike : Alike left right) :
    isBareControl left = isBareControl right := by
  refine alike.congr false fun control => ?_
  simp only [Document.isBareControl, ne_eq, Bool.not_eq_false, decide_eq_true_eq] at control
  rw [Char.utf8Size_eq_one_iff, UInt32.le_iff_toNat_le]
  exact Nat.le_of_lt (Nat.lt_trans control (by decide))

theorem Grammar.HexDigit.narrow {digit : Char} {value : Nat} (written : HexDigit digit value) :
    digit.utf8Size = 1 := by
  have lowerCase : "0123456789abcdef".toList.all (·.utf8Size == 1) = true := rfl
  have upperCase : "0123456789ABCDEF".toList.all (·.utf8Size == 1) = true := rfl
  rcases written with lower | upper
  · exact beq_iff_eq.mp (List.all_eq_true.mp lowerCase digit (List.mem_of_getElem? lower))
  · exact beq_iff_eq.mp (List.all_eq_true.mp upperCase digit (List.mem_of_getElem? upper))

theorem word_sequential (expected : List Char)
    (narrow : expected.all (·.utf8Size == 1) = true) : Sequential follows (word expected) := by
  induction expected with
  | nil => exact .pure ()
  | cons first expected ih =>
      rw [List.all_cons, Bool.and_eq_true, beq_iff_eq] at narrow
      obtain ⟨firstNarrow, laterNarrow⟩ := narrow
      have later := ih laterNarrow
      refine .glance (fun char =>
          if char = first then behindNext (word expected) else refuse .misspelledWord)
        (fun char rest => ?_) (fun alike => ?_) (fun char => ?_) ⟨rfl, fun _ => rfl⟩
      · simp only [word]
        split <;> rfl
      · simp only [alike.eq_iff firstNarrow]
      · exact .ite (.behindNext later) (.refuse (by decide))

theorem colon_sequential : Sequential follows colon := by
  refine .peek (.error (Cause.endOfObject.before [])) (fun char =>
      if char = ':' then behindNext (pure ()) else refuse .expectedColon)
    (fun found => ?_) (fun found => ?_) (fun alike => ?_) (fun char => ?_) ⟨rfl, fun _ => rfl⟩
  · simp only [colon, found]
  · simp only [colon, found]
    split <;> simp_all
  · simp (disch := decide) only [alike.eq_iff]
  · exact .ite (.behindNext (.pure ())) (.refuse (by decide))

theorem word_orderly (expected : List Char) (narrow : expected.all (·.utf8Size == 1) = true) :
    Orderly follows exempt (word expected) := by
  refine (word_sequential expected narrow).orderly fun stopped => ?_
  cases expected <;> cases stopped
  rfl

theorem colon_orderly : Orderly follows exempt colon :=
  colon_sequential.orderly (Wanting.patient ⟨_, rfl, rfl⟩)

theorem byteSize_take_lt_iff : byteSize (text.take 4) < 4 ↔ byteSize text < 4 := by
  match text with
  | [] | [_] | [_, _] | [_, _, _] => exact Iff.rfl
  | first :: second :: third :: fourth :: rest =>
      have enough := four_le_byteSize first second third fourth rest
      have whole := byteSize_append ((first :: second :: third :: fourth :: rest).take 4) rest
      exact iff_of_false enough fun short => enough (by simp at whole short ⊢; omega)

/-- There are no four bytes, or there are and they are no four hexadecimal digits, or they are. -/
theorem fourHexDigits_cases (text : List Char) :
    (byteSize text < 4 ∧ fourHexDigits text = .error ⟨.endOfString, 0⟩) ∨
    (4 ≤ byteSize text ∧ (∀ unit rest, ¬ HexQuad text unit rest) ∧
      fourHexDigits text = .error ⟨.invalidEscape, byteSize text - 4⟩) ∨
    ∃ unit rest, HexQuad text unit rest ∧ fourHexDigits text = .ok (unit, rest) := by
  cases read : fourHexDigits text with
  | ok result => exact .inr (.inr ⟨_, _, fourHexDigits_eq_ok_iff.mp read, rfl⟩)
  | error fault =>
      have noQuad : ∀ unit rest, ¬ HexQuad text unit rest := by
        intro unit rest quad
        rw [fourHexDigits_eq_ok_iff.mpr quad] at read
        cases read
      by_cases short : byteSize text < 4
      · simp only [fourHexDigits, byteSize_take_lt_iff, short, if_true] at read
        cases read
        exact .inl ⟨short, rfl⟩
      · simp only [fourHexDigits, byteSize_take_lt_iff, short, if_false] at read
        refine .inr (.inl ⟨Nat.le_of_not_lt short, noQuad, ?_⟩)
        split at read
        · split at read
          · cases read
          · exact read.symm
        · exact read.symm

theorem Grammar.HexQuad.exists_front {unit : Nat} (quad : HexQuad text unit rest) :
    ∃ front, text = front ++ rest ∧ byteSize front = 4 ∧
      ∀ other, HexQuad (front ++ other) unit other := by
  cases quad with
  | @digits first second third fourth _ _ _ _ _ one two three four =>
      refine ⟨[first, second, third, fourth], rfl, ?_, fun _ => .digits one two three four⟩
      simp [one.narrow, two.narrow, three.narrow, four.narrow]

/-- A front of an appended text that is no longer than the text in front is a front of that. -/
theorem exists_front_of_append {front more : List Char} (split : text ++ more = front ++ rest)
    (long : byteSize front ≤ byteSize text) : ∃ between, text = front ++ between := by
  rcases List.append_eq_append_iff.mp split with ⟨between, whole, _⟩ | ⟨between, whole, _⟩
  · have size := congrArg byteSize whole
    rw [byteSize_append] at size
    cases between with
    | nil => exact ⟨[], by rw [List.append_nil, whole, List.append_nil]⟩
    | cons char between =>
        have := char.utf8Size_pos
        rw [byteSize_cons] at size
        omega
  · exact ⟨between, whole⟩

theorem fourHexDigits_sequential : Sequential follows fourHexDigits where
  keeps := fourHexDigits_keeps
  bounded {text _} stopped := by
    rcases fourHexDigits_cases text with ⟨_, read⟩ | ⟨_, _, read⟩ | ⟨_, _, _, read⟩ <;>
      rw [read] at stopped <;> cases stopped
    · exact Nat.zero_le _
    · exact Nat.sub_le _ _
  ended {text _} stopped truncated := by
    rcases fourHexDigits_cases text with ⟨_, read⟩ | ⟨_, _, read⟩ | ⟨_, _, _, read⟩ <;>
      rw [read] at stopped <;> cases stopped
    · rfl
    · contradiction
  value agree success further := by
    obtain ⟨front, rfl, _, framed⟩ := (fourHexDigits_eq_ok_iff.mp success).exists_front
    obtain ⟨other, rfl, behind⟩ := agree.drop_front further
    exact ⟨other, fourHexDigits_eq_ok_iff.mpr (framed other), behind⟩
  fault {_ _ text text' _ _} agree stopped positive := by
    have size := agree.size
    rcases fourHexDigits_cases text with ⟨_, read⟩ | ⟨enough, noQuad, read⟩ | ⟨_, _, _, read⟩ <;>
      rw [read] at stopped
    · obtain ⟨_, place⟩ := Fault.mk.inj (Except.error.inj stopped)
      omega
    · obtain ⟨rfl, place⟩ := Fault.mk.inj (Except.error.inj stopped)
      rcases fourHexDigits_cases text' with ⟨short, _⟩ | ⟨_, _, read'⟩ | ⟨unit, rest, quad, _⟩
      · omega
      · rw [read']
        exact error_eq (by omega)
      · -- Four digits of the other text would stand in front of the character in question.
        obtain ⟨front, rfl, four, framed⟩ := quad.exists_front
        rw [byteSize_append, four] at size
        obtain ⟨other, rfl, _⟩ := agree.symm.drop_front (by omega)
        exact absurd (framed other) (noQuad unit other)
    · cases stopped
  appendValue success _ := by
    obtain ⟨front, rfl, _, framed⟩ := (fourHexDigits_eq_ok_iff.mp success).exists_front
    rw [List.append_assoc]
    exact fourHexDigits_eq_ok_iff.mpr (framed _)
  appendFault {text _ more} stopped category _ := by
    have size := byteSize_append text more
    rcases fourHexDigits_cases text with ⟨_, read⟩ | ⟨enough, noQuad, read⟩ | ⟨_, _, _, read⟩ <;>
      rw [read] at stopped <;> cases stopped
    · contradiction
    · rcases fourHexDigits_cases (text ++ more) with ⟨short, _⟩ | ⟨_, _, read'⟩ |
        ⟨unit, rest, quad, _⟩
      · omega
      · rw [read']
        exact error_eq (by dsimp only; omega)
      · obtain ⟨front, split, four, framed⟩ := quad.exists_front
        obtain ⟨between, rfl⟩ := exists_front_of_append split (by omega)
        exact absurd (framed between) (noQuad unit between)

theorem pairMark_sequential {expected : Char} (narrow : expected.utf8Size = 1) :
    Sequential follows (pairMark expected) := by
  refine .glance (fun char =>
      if char = expected then behindNext (pure ()) else refuse .halfSurrogatePair)
    (fun char rest => ?_) (fun alike => ?_) (fun char => ?_) ⟨rfl, fun _ => rfl⟩
  · simp only [pairMark]
    split <;> rfl
  · simp only [alike.eq_iff narrow]
  · exact .ite (.behindNext (.pure ())) (.refuse (by decide))

theorem codePointEscape_sequential : Sequential follows codePointEscape := by
  refine fourHexDigits_sequential.bind fun unit => .ite (.stop (by decide)) (.ite ?_ (.pure _))
  refine (pairMark_sequential rfl).bind fun _ => (pairMark_sequential rfl).bind fun _ => ?_
  exact fourHexDigits_sequential.bind fun partner => .ite (.pure _) (.stop (by decide))

theorem escape_sequential : Sequential follows escape := by
  refine .glance (fun char =>
      if char = 'u' then behindNext codePointEscape
      else (shortEscape? char).elim (refuse .invalidEscape) fun meaning =>
        behindNext (pure meaning))
    (fun char rest => ?_) (fun alike => ?_) (fun char => ?_) ⟨rfl, fun _ => rfl⟩
  · by_cases mark : char = 'u'
    · subst mark
      rfl
    · cases known : shortEscape? char <;> simp [escape, mark, known]
  · simp (disch := decide) only [alike.eq_iff, alike.shortEscape?]
  · refine .ite (.behindNext codePointEscape_sequential) ?_
    cases shortEscape? char with
    | none => exact .refuse (by decide)
    | some meaning => exact .behindNext (.pure meaning)

theorem literalStep_sequential (decoded : String) : Sequential follows (literalStep decoded) := by
  refine .glance (fun char =>
      if char = '"' then behindNext (pure none)
      else if char = '\\' then behindNext ((fun char => some (decoded.push char)) <$> escape)
      else if isBareControl char then behindNext (stop .controlCharacter)
      else (fun char => some (decoded.push char)) <$> next)
    (fun char rest => ?_) (fun alike => ?_) (fun char => ?_) ⟨rfl, fun _ => rfl⟩
  · unfold literalStep
    split <;> simp_all
  · simp (disch := decide) only [alike.eq_iff, alike.isBareControl]
  · refine .ite (.behindNext (.pure _)) <| .ite (.behindNext escape_sequential.map) ?_
    exact .ite (.behindNext (.stop (by decide))) (.map .next)

theorem literal_sequential : Sequential follows literal :=
  .run literalStep_sequential ""

theorem literal_wanting : Wanting literal :=
  ⟨_, run_of_error rfl, rfl⟩

theorem literal_orderly : Orderly follows exempt literal :=
  literal_sequential.orderly literal_wanting.patient

theorem skipEscape_sequential : Sequential follows skipEscape := by
  refine .glance (fun char =>
      if char = 'u' then behindNext ((fun _ => ()) <$> fourHexDigits)
      else if (shortEscape? char).isSome then behindNext (pure ())
      else refuse .invalidEscape)
    (fun char rest => ?_) (fun alike => ?_) (fun char => ?_) ⟨rfl, fun _ => rfl⟩
  · unfold skipEscape
    split <;> simp_all
  · simp (disch := decide) only [alike.eq_iff, alike.shortEscape?]
  · exact .ite (.behindNext fourHexDigits_sequential.map)
      (.ite (.behindNext (.pure _)) (.refuse (by decide)))

theorem skipLiteralStep_sequential : Sequential follows (skipLiteralStep ()) := by
  refine .glance (fun char =>
      if char = '"' then behindNext (pure none)
      else if char = '\\' then behindNext ((fun _ => some ()) <$> skipEscape)
      else if isBareControl char then stop .controlCharacter
      else behindNext (pure (some ())))
    (fun char rest => ?_) (fun alike => ?_) (fun char => ?_) ⟨rfl, fun _ => rfl⟩
  · unfold skipLiteralStep
    split <;> simp_all
  · simp (disch := decide) only [alike.eq_iff, alike.isBareControl]
  · refine .ite (.behindNext (.pure _)) <| .ite (.behindNext skipEscape_sequential.map) ?_
    exact .ite (.stop (by decide)) (.behindNext (.pure _))

theorem skipLiteral_sequential : Sequential follows skipLiteral :=
  .run (fun _ => skipLiteralStep_sequential) ()

theorem skipLiteral_orderly : Orderly follows exempt skipLiteral :=
  skipLiteral_sequential.orderly (Wanting.patient ⟨_, run_of_error rfl, rfl⟩)

end GraphicsProfile.Document
