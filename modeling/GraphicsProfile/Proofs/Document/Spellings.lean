import GraphicsProfile.Document.Grammar.Spelling
import GraphicsProfile.Proofs.Document.Literals

namespace GraphicsProfile.Document

open Grammar

variable {text middle rest front behind spelling word decoded : List Char}
  {char other digit mark : Char} {unit value : Nat}

section Pieces

theorem Grammar.HexWord.quad (written : HexWord word unit) (rest : List Char) :
    HexQuad (word ++ rest) unit rest := by
  cases written with
  | digits first second third fourth =>
      exact .digits first second third fourth

theorem Grammar.HexQuad.exists_word (quad : HexQuad text unit rest) :
    ∃ word, text = word ++ rest ∧ HexWord word unit := by
  cases quad with
  | digits first second third fourth =>
      exact ⟨[_, _, _, _], rfl, .digits first second third fourth⟩

theorem piece_iff : Piece text char rest ↔ ∃ front, text = front ++ rest ∧ Spells front char := by
  refine ⟨fun piece => ?_, fun given => ?_⟩
  · cases piece with
    | plain noQuote noEscape noControl =>
        exact ⟨[char], rfl, .plain noQuote noEscape noControl⟩
    | short known => exact ⟨['\\', _], rfl, .short known⟩
    | codePoint quad =>
        obtain ⟨word, rfl, written⟩ := quad.exists_word
        exact ⟨'\\' :: 'u' :: word, rfl, .codePoint written⟩
    | pair first second lowBits whole =>
        obtain ⟨word, rfl, leading⟩ := first.exists_word
        obtain ⟨partner, rfl, trailing⟩ := second.exists_word
        have valid : char.toNat < 0xD800 ∨ 0xDFFF < char.toNat ∧ char.toNat < 0x110000 := char.valid
        exact ⟨'\\' :: 'u' :: word ++ '\\' :: 'u' :: partner, by simp,
          .pair leading trailing (by omega) lowBits whole⟩
  · obtain ⟨front, rfl, spells⟩ := given
    cases spells with
    | plain noQuote noEscape noControl => exact .plain noQuote noEscape noControl
    | short known => exact .short known
    | codePoint written => exact .codePoint (written.quad rest)
    | pair leading trailing _ lowBits whole =>
        rw [List.append_assoc]
        exact .pair (leading.quad _) (trailing.quad rest) lowBits whole

theorem literal_iff_spelling : Literal text decoded rest ↔
    ∃ spelling, text = spelling ++ '"' :: rest ∧ Spelling spelling decoded := by
  refine ⟨fun form => ?_, fun given => ?_⟩
  · induction form with
    | close => exact ⟨[], rfl, .empty⟩
    | piece first _ ih =>
        obtain ⟨front, rfl, spells⟩ := piece_iff.mp first
        obtain ⟨spelling, rfl, later⟩ := ih
        exact ⟨front ++ spelling, by simp, .piece spells later⟩
  · obtain ⟨spelling, rfl, written⟩ := given
    induction written with
    | empty => exact .close
    | piece first _ ih =>
        rw [List.append_assoc]
        exact .piece (piece_iff.mpr ⟨_, rfl, first⟩) ih

theorem literal_eq_ok_iff_spelling {decoded : String} : literal text = .ok (decoded, rest) ↔
    ∃ spelling, text = spelling ++ '"' :: rest ∧ Spelling spelling decoded.toList :=
  literal_eq_ok_iff.trans literal_iff_spelling

end Pieces

section Uniqueness

theorem Grammar.HexQuad.unique {partner : Nat} (quad : HexQuad text unit rest)
    (quad' : HexQuad text partner middle) : unit = partner ∧ rest = middle := by
  have read := fourHexDigits_eq_ok_iff.mpr quad
  rw [fourHexDigits_eq_ok_iff.mpr quad'] at read
  cases read
  exact ⟨rfl, rfl⟩

theorem Grammar.Piece.unique (piece : Piece text char rest) (piece' : Piece text other middle) :
    char = other ∧ rest = middle := by
  have read : literalStep "" text = .ok (some ("".push char), rest) :=
    literalStep_eq_some_iff.mpr ⟨char, piece, rfl⟩
  have read' : literalStep "" text = .ok (some ("".push other), middle) :=
    literalStep_eq_some_iff.mpr ⟨other, piece', rfl⟩
  simpa using read.symm.trans read'

theorem Grammar.Literal.behind_piece (form : Literal text decoded rest)
    (piece : Piece text char middle) :
    ∃ more, decoded = char :: more ∧ Literal middle more rest := by
  cases form with
  | close =>
      -- No piece starts with the closing quote.
      cases piece with
      | plain noQuote _ _ => exact absurd rfl noQuote
  | piece first later =>
      obtain ⟨rfl, rfl⟩ := piece.unique first
      exact ⟨_, rfl, later⟩

/-- Behind a row of pieces a literal goes on, and so does what it spells. -/
theorem Grammar.Literal.behind_spelling {written : List Char} (spelling : Spelling front written)
    (form : Literal (front ++ behind) decoded rest) :
    ∃ more, decoded = written ++ more ∧ Literal behind more rest := by
  induction spelling generalizing decoded with
  | empty => exact ⟨decoded, rfl, form⟩
  | piece first _ ih =>
      rw [List.append_assoc] at form
      obtain ⟨_, rfl, later⟩ := form.behind_piece (piece_iff.mpr ⟨_, rfl, first⟩)
      obtain ⟨more, rfl, last⟩ := ih later
      exact ⟨more, rfl, last⟩

theorem Grammar.Spelling.unique {left right : List Char} (first : Spelling spelling left)
    (second : Spelling spelling right) : left = right := by
  have form : Literal (spelling ++ ['"']) right [] := literal_iff_spelling.mpr ⟨_, rfl, second⟩
  obtain ⟨more, rfl, closed⟩ := form.behind_spelling first
  cases closed with
  | close => exact (List.append_nil left).symm
  | piece first _ =>
      cases first with
      | plain noQuote _ _ => exact absurd rfl noQuote

/-- An escape of a surrogate is the first half of a pair, and the second half follows at once. -/
theorem Grammar.Literal.surrogate_pair (written : HexWord word unit) (surrogate : 0xD800 ≤ unit)
    (surrogate' : unit ≤ 0xDFFF) (form : Literal ('\\' :: 'u' :: (word ++ behind)) decoded rest) :
    unit ≤ 0xDBFF ∧ ∃ partner low more, behind = '\\' :: 'u' :: (partner ++ more) ∧
      HexWord partner low ∧ 0xDC00 ≤ low ∧ low ≤ 0xDFFF := by
  have quad := written.quad behind
  cases form with
  | @piece _ _ _ char _ first _ =>
      have valid : char.toNat < 0xD800 ∨ 0xDFFF < char.toNat ∧ char.toNat < 0x110000 := char.valid
      cases first with
      | plain _ noEscape _ => exact absurd rfl noEscape
      | short known => simp [shortEscapes] at known
      | codePoint direct =>
          obtain ⟨rfl, _⟩ := quad.unique direct
          omega
      | @pair _ _ _ _ high low leading trailing lowBits whole =>
          obtain ⟨rfl, rfl⟩ := quad.unique leading
          obtain ⟨partner, rfl, second⟩ := trailing.exists_word
          exact ⟨by omega, partner, 0xDC00 + low, _, rfl, second, by omega, by omega⟩

end Uniqueness

end GraphicsProfile.Document
