import GraphicsProfile.Text.Unquoted

namespace GraphicsProfile.Text

variable {hidden : Char → Bool} {char digit : Char} {text front back rest : List Char} {value : Nat}

/-- Controls, and the separators of lines and of paragraphs. -/
def Breaks (char : Char) : Prop :=
  char.toNat < 0x20 ∨ (0x7F ≤ char.toNat ∧ char.toNat ≤ 0x9F) ∨ char = '\u2028' ∨ char = '\u2029'

instance : DecidablePred Breaks := fun char =>
  inferInstanceAs (Decidable (char.toNat < 0x20 ∨ (0x7F ≤ char.toNat ∧ char.toNat ≤ 0x9F) ∨
    char = '\u2028' ∨ char = '\u2029'))

/-- Whether a text ends in a backslash that escapes what comes next. A backslash that is itself
escaped does not. -/
def endsEscaping (text : List Char) : Bool :=
  text.foldl (fun escaping char => char == '\\' && !escaping) false

/-- The quoted text without the quotes around it. -/
def quotedInside (hidden : Char → Bool) (text : List Char) : List Char :=
  text.flatMap (quoteChar hidden)

theorem quoteWith_eq (hidden : Char → Bool) (text : List Char) :
    quoteWith hidden text = '"' :: (quotedInside hidden text ++ ['"']) := rfl

section CodePoints

theorem digitChar_of_mem_toDigits (member : digit ∈ Nat.toDigits 16 value) :
    ∃ value < 16, digit = Nat.digitChar value := by
  induction value using Nat.strongRecOn with
  | ind value ih =>
      by_cases short : value < 16
      · rw [Nat.toDigits_of_lt_base short] at member
        exact ⟨value, short, List.mem_singleton.mp member⟩
      · rw [Nat.toDigits_of_base_le (by decide) (Nat.le_of_not_lt short)] at member
        rcases List.mem_append.mp member with inside | last
        · exact ih (value / 16) (by omega) inside
        · exact ⟨value % 16, Nat.mod_lt value (by decide), List.mem_singleton.mp last⟩

theorem codePointDigit?_digitChar (below : value < 16) :
    codePointDigit? (Nat.digitChar value) = some value := by
  revert below value
  decide

theorem codePointValue?_toDigits (value : Nat) :
    codePointValue? (Nat.toDigits 16 value) = some value := by
  induction value using Nat.strongRecOn with
  | ind value ih =>
      by_cases short : value < 16
      · rw [Nat.toDigits_of_lt_base short]
        simp [codePointValue?, codePointDigit?_digitChar short]
      · have front : codePointValue? (Nat.toDigits 16 (value / 16)) = some (value / 16) :=
          ih (value / 16) (by omega)
        have last := codePointDigit?_digitChar (Nat.mod_lt value (by decide : 16 > 0))
        rw [Nat.toDigits_of_base_le (by decide) (Nat.le_of_not_lt short)]
        simp only [codePointValue?] at front ⊢
        simp [List.foldlM_append, front, last, Nat.div_add_mod']

/-- A digit of a code point does not end an escape and would not begin one. -/
theorem codePointDigit_harmless (member : digit ∈ codePointDigits char) :
    digit ≠ '}' ∧ digit ≠ '"' ∧ digit ≠ '\\' ∧ ¬ Breaks digit := by
  obtain ⟨value, below, rfl⟩ := digitChar_of_mem_toDigits member
  clear member
  revert below value
  decide

end CodePoints

section Reading

theorem unquoteChar?_codePoint (char : Char) (rest : List Char) :
    unquoteChar? ('\\' :: 'u' :: '{' :: (codePointDigits char ++ '}' :: rest)) =
      some (char, rest) := by
  have inside : ∀ digit ∈ codePointDigits char, (digit != '}') = true :=
    fun _ member => bne_iff_ne.mpr (codePointDigit_harmless member).1
  have value : codePointValue? (codePointDigits char) = some char.toNat :=
    codePointValue?_toDigits char.toNat
  simp only [unquoteChar?, List.takeWhile_append_of_pos inside,
    List.dropWhile_append_of_pos inside, List.takeWhile_cons, List.dropWhile_cons,
    bne_self_eq_false, Bool.false_eq_true, if_false, List.append_nil, value, Char.ofNat_toNat]

theorem unquoteChar?_raw (noQuote : char ≠ '"') (noEscape : char ≠ '\\') (rest : List Char) :
    unquoteChar? (char :: rest) = some (char, rest) := by
  unfold unquoteChar?
  split <;> simp_all

/-- How a character stands inside the quotes: as an escape of two characters, as its code point, or
as itself if it is neither hidden nor a mark of the quotation. -/
theorem quoteChar_cases (hidden : Char → Bool) (char : Char) :
    (∃ mark, quoteChar hidden char = ['\\', mark] ∧ ¬ Breaks mark ∧
      ∀ rest, unquoteChar? ('\\' :: mark :: rest) = some (char, rest)) ∨
    quoteChar hidden char = '\\' :: 'u' :: '{' :: (codePointDigits char ++ ['}']) ∨
    quoteChar hidden char = [char] ∧ char ≠ '"' ∧ char ≠ '\\' ∧ hidden char = false := by
  unfold quoteChar
  split
  · exact .inl ⟨'t', rfl, by decide, fun _ => rfl⟩
  · exact .inl ⟨'r', rfl, by decide, fun _ => rfl⟩
  · exact .inl ⟨'n', rfl, by decide, fun _ => rfl⟩
  · exact .inl ⟨'0', rfl, by decide, fun _ => rfl⟩
  · exact .inl ⟨'"', rfl, by decide, fun _ => rfl⟩
  · exact .inl ⟨'\\', rfl, by decide, fun _ => rfl⟩
  · rename_i noQuote noEscape
    split
    · exact .inr (.inl rfl)
    · rename_i shown
      exact .inr (.inr ⟨rfl, noQuote, noEscape, Bool.eq_false_iff.mpr shown⟩)

theorem unquoteChar?_quoteChar (hidden : Char → Bool) (char : Char) (rest : List Char) :
    unquoteChar? (quoteChar hidden char ++ rest) = some (char, rest) := by
  rcases quoteChar_cases hidden char with ⟨mark, written, _, read⟩ | written |
    ⟨written, noQuote, noEscape, _⟩
  · rw [written]
    exact read rest
  · rw [written]
    simpa using unquoteChar?_codePoint char rest
  · rw [written]
    exact unquoteChar?_raw noQuote noEscape rest

theorem unquoteBody?_of_char (read : unquoteChar? text = some (char, rest)) :
    unquoteBody? text = (unquoteBody? rest).map (char :: ·) := by
  have more : text ≠ ['"'] := by
    rintro rfl
    cases read
  rw [unquoteBody?, if_neg more]
  split <;> simp_all

theorem unquoteBody?_quotedInside (hidden : Char → Bool) (text : List Char) :
    unquoteBody? (quotedInside hidden text ++ ['"']) = some text := by
  induction text with
  | nil => rw [unquoteBody?]; rfl
  | cons char text ih =>
      have first := unquoteChar?_quoteChar hidden char (quotedInside hidden text ++ ['"'])
      rw [quotedInside, List.flatMap_cons, List.append_assoc, ← quotedInside,
        unquoteBody?_of_char first, ih]
      rfl

/-- Quoted text reads back, whichever characters were hidden. -/
theorem unquote?_quoteWith (hidden : Char → Bool) (text : String) :
    unquote? (String.ofList (quoteWith hidden text.toList)) = some text := by
  rw [unquote?, String.toList_ofList, quoteWith_eq]
  simp only [unquoteBody?_quotedInside, Option.map_some, String.ofList_toList]

theorem quoteWith_inj {left right : String} (same : quoteWith hidden left.toList =
    quoteWith hidden right.toList) : left = right := by
  have read := unquote?_quoteWith hidden left
  rw [same, unquote?_quoteWith] at read
  exact (Option.some.inj read).symm

end Reading

section Quotes

theorem endsEscaping_concat (noEscape : char ≠ '\\') (text : List Char) :
    endsEscaping (text ++ [char]) = false := by
  simp [endsEscaping, noEscape]

/-- A text after which nothing is escaped leaves open what the text behind it escapes. -/
theorem endsEscaping_append (settled : endsEscaping front = false) (back : List Char) :
    endsEscaping (front ++ back) = endsEscaping back := by
  simp only [endsEscaping] at settled ⊢
  rw [List.foldl_append, settled]

theorem endsEscaping_quoteChar (hidden : Char → Bool) (char : Char) :
    endsEscaping (quoteChar hidden char) = false := by
  rcases quoteChar_cases hidden char with ⟨mark, written, _, _⟩ | written |
    ⟨written, _, noEscape, _⟩
  · rw [written]
    simp [endsEscaping]
  · rw [written]
    exact endsEscaping_concat (by decide) ('\\' :: 'u' :: '{' :: codePointDigits char)
  · rw [written]
    exact endsEscaping_concat noEscape []

theorem endsEscaping_quotedInside (hidden : Char → Bool) (text : List Char) :
    endsEscaping (quotedInside hidden text) = false := by
  induction text with
  | nil => rfl
  | cons char text ih =>
      rw [quotedInside, List.flatMap_cons, ← quotedInside,
        endsEscaping_append (endsEscaping_quoteChar hidden char), ih]

theorem escaped_in_quoteChar (split : quoteChar hidden char = front ++ '"' :: back) :
    endsEscaping front = true := by
  have member : '"' ∈ quoteChar hidden char := by
    rw [split]
    exact List.mem_append_right front List.mem_cons_self
  rcases quoteChar_cases hidden char with ⟨mark, written, _, _⟩ | written |
    ⟨written, noQuote, _, _⟩
  · -- The quote is the mark, and the backslash in front of it is all there is.
    rw [written] at split
    cases front with
    | nil => cases split
    | cons first front =>
        cases front with
        | nil =>
            cases split
            rfl
        | cons second front => simp at split
  · rw [written] at member
    simp only [List.mem_cons, List.mem_append, List.not_mem_nil, or_false, Char.reduceEq,
      false_or] at member
    exact absurd rfl (codePointDigit_harmless member).2.1
  · rw [written] at member
    exact absurd (List.mem_singleton.mp member).symm noQuote

/-- Every quote inside a quotation stands behind a backslash that escapes it. -/
theorem escaped_in_quotedInside (split : quotedInside hidden text = front ++ '"' :: back) :
    endsEscaping front = true := by
  induction text generalizing front with
  | nil => simp [quotedInside] at split
  | cons char text ih =>
      rw [quotedInside, List.flatMap_cons, ← quotedInside] at split
      rcases List.append_eq_append_iff.mp split with ⟨later, rfl, behind⟩ | ⟨inner, within, behind⟩
      · rw [endsEscaping_append (endsEscaping_quoteChar hidden char)]
        exact ih behind
      · cases inner with
        | nil =>
            rw [List.append_nil] at within
            have escaping : endsEscaping [] = true := ih behind.symm
            cases escaping
        | cons first inner =>
            cases behind
            exact escaped_in_quoteChar within

end Quotes

theorem not_breaks_of_mem_quoteChar (covered : ∀ char, Breaks char → hidden char = true)
    (member : digit ∈ quoteChar hidden char) : ¬ Breaks digit := by
  rcases quoteChar_cases hidden char with ⟨mark, written, harmless, _⟩ | written |
    ⟨written, _, _, shown⟩
  · rw [written] at member
    rcases List.mem_cons.mp member with rfl | member
    · decide
    · rwa [List.mem_singleton.mp member]
  · rw [written] at member
    simp only [List.mem_cons, List.mem_append, List.not_mem_nil, or_false] at member
    rcases member with rfl | rfl | rfl | member | rfl
    · decide
    · decide
    · decide
    · exact (codePointDigit_harmless member).2.2.2
    · decide
  · rw [written] at member
    rw [List.mem_singleton.mp member]
    intro breaks
    rw [covered char breaks] at shown
    cases shown

theorem not_breaks_of_mem_quoteWith (covered : ∀ char, Breaks char → hidden char = true)
    (member : char ∈ quoteWith hidden text) : ¬ Breaks char := by
  rw [quoteWith_eq] at member
  rcases List.mem_cons.mp member with rfl | member
  · decide
  · rcases List.mem_append.mp member with inside | last
    · obtain ⟨_, _, member⟩ := List.mem_flatMap.mp inside
      exact not_breaks_of_mem_quoteChar covered member
    · rw [List.mem_singleton.mp last]
      decide

end GraphicsProfile.Text
