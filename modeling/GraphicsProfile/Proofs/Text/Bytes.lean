import GraphicsProfile.Proofs.Text.Positions

namespace GraphicsProfile.Text

variable {left right char : Char} {text front back : List Char} {byte : UInt8}

section Order

theorem toNat_ofNat_of_small {value : Nat} (small : value < 256) :
    (UInt8.ofNat value).toNat = value := by
  rw [UInt8.toNat_ofNat']
  omega

/-- Numbers are ordered by their digits of six bits. -/
theorem sixBits_lt {left right : Nat} (below : left < right) (bound : right < 0x200000) :
    left / 262144 % 8 < right / 262144 % 8 ∨ left / 262144 % 8 = right / 262144 % 8 ∧
      (left / 4096 % 64 < right / 4096 % 64 ∨ left / 4096 % 64 = right / 4096 % 64 ∧
        (left / 64 % 64 < right / 64 % 64 ∨ left / 64 % 64 = right / 64 % 64 ∧
          left % 64 < right % 64)) := by
  by_cases first : left / 262144 < right / 262144
  · exact .inl (by omega)
  · refine .inr ⟨by omega, ?_⟩
    by_cases second : left / 4096 < right / 4096
    · exact .inl (by omega)
    · refine .inr ⟨by omega, ?_⟩
      by_cases third : left / 64 < right / 64
      · exact .inl (by omega)
      · exact .inr ⟨by omega, by omega⟩

theorem utf8EncodeChar_lt (below : left < right) :
    String.utf8EncodeChar left < String.utf8EncodeChar right := by
  have lower : left.val.toNat < right.val.toNat := below
  have valid : right.val.toNat < 0xD800 ∨ 0xDFFF < right.val.toNat ∧ right.val.toNat < 0x110000 :=
    right.valid
  have digits := sixBits_lt lower (by omega)
  rw [String.utf8EncodeChar.eq_def, String.utf8EncodeChar.eq_def]
  dsimp only
  -- Characters of different sizes differ in the first byte, and the others in some digit.
  split <;> repeat' split
  all_goals simp (disch := omega) only [List.cons_lt_cons_iff, UInt8.lt_iff_toNat_lt,
    ← UInt8.toNat_inj, toNat_ofNat_of_small, List.nil_lt_cons, List.not_lt_nil, and_false,
    or_false, and_true]
  all_goals omega

theorem append_lt_append {first second : List UInt8} (below : first < second)
    (noPrefix : ¬ first <+: second) (front back : List UInt8) :
    first ++ front < second ++ back := by
  induction first generalizing second with
  | nil => exact absurd List.nil_prefix noPrefix
  | cons byte first ih =>
      cases second with
      | nil => exact absurd below (List.not_lt_nil _)
      | cons byte' second =>
          rw [List.cons_append, List.cons_append, List.cons_lt_cons_iff]
          rcases List.cons_lt_cons_iff.mp below with first | ⟨rfl, later⟩
          · exact .inl first
          · refine .inr ⟨rfl, ih later fun pre => noPrefix ?_⟩
            exact List.cons_prefix_cons.mpr ⟨rfl, pre⟩

theorem utf8EncodeChar_noPrefix (below : left < right) :
    ¬ String.utf8EncodeChar left <+: String.utf8EncodeChar right := by
  intro pre
  obtain ⟨first, later, encoded⟩ : ∃ first later, String.utf8EncodeChar left = first :: later :=
    List.exists_cons_of_ne_nil String.utf8EncodeChar_ne_nil
  have size : left.utf8Size = right.utf8Size := by
    obtain ⟨more, whole⟩ := pre
    refine utf8Size_of_first ?_
    rw [← whole, encoded]
    rfl
  have same := pre.eq_of_length (by
    rw [String.length_utf8EncodeChar, String.length_utf8EncodeChar, size])
  rw [eq_of_utf8EncodeChar same] at below
  exact Char.lt_irrefl _ below

theorem bytes_lt (below : front < back) : bytes front < bytes back := by
  induction front generalizing back with
  | nil =>
      cases back with
      | nil => exact absurd below (List.not_lt_nil _)
      | cons char back =>
          obtain ⟨first, later, encoded⟩ :
              ∃ first later, String.utf8EncodeChar char = first :: later :=
            List.exists_cons_of_ne_nil String.utf8EncodeChar_ne_nil
          rw [bytes_cons, encoded]
          exact List.nil_lt_cons _ _
  | cons char front ih =>
      cases back with
      | nil => exact absurd below (List.not_lt_nil _)
      | cons char' back =>
          rw [bytes_cons, bytes_cons]
          rcases List.cons_lt_cons_iff.mp below with first | ⟨rfl, later⟩
          · exact append_lt_append (utf8EncodeChar_lt first) (utf8EncodeChar_noPrefix first) _ _
          · exact List.append_left_lt (ih later)

/-- A view of texts that keeps their order shows their order. -/
theorem lt_iff_of_keeps {β : Type} [LT β] [Std.Irrefl fun left right : β => left < right]
    [Std.Asymm fun left right : β => left < right] {view : List Char → List β}
    (keeps : ∀ {front back}, front < back → view front < view back) :
    view front < view back ↔ front < back := by
  refine ⟨fun below => Decidable.byContradiction fun notBelow => ?_, keeps⟩
  by_cases above : back < front
  · exact List.lt_asymm below (keeps above)
  · rw [List.le_antisymm above notBelow] at below
    exact List.lt_irrefl _ below

theorem bytes_lt_iff : bytes front < bytes back ↔ front < back :=
  lt_iff_of_keeps bytes_lt

theorem codePoints_lt_iff : front.map Char.toNat < back.map Char.toNat ↔ front < back :=
  lt_iff_of_keeps fun below => List.map_lt (fun _ _ below => below) below

end Order

section Ascii

theorem utf8EncodeChar_of_ascii (ascii : char.toNat < 0x80) :
    String.utf8EncodeChar char = [UInt8.ofNat char.toNat] := by
  have small : char.val.toNat ≤ 0x7f := Nat.le_of_lt_succ ascii
  rw [String.utf8EncodeChar.eq_def]
  exact if_pos small

theorem le_utf8EncodeChar (noAscii : 0x80 ≤ char.toNat) :
    ∀ byte ∈ String.utf8EncodeChar char, 0x80 ≤ byte.toNat := by
  have large : ¬ char.val.toNat ≤ 0x7f := Nat.not_le.mpr noAscii
  rw [String.utf8EncodeChar.eq_def]
  dsimp only
  rw [if_neg large]
  repeat' split
  all_goals simp (disch := omega) only [List.forall_mem_cons, toNat_ofNat_of_small,
    List.not_mem_nil, false_implies, implies_true, and_true]
  all_goals omega

/-- A byte below 0x80 is a character of the text. -/
theorem mem_of_ascii (member : byte ∈ bytes text) (ascii : byte.toNat < 0x80) :
    Char.ofNat byte.toNat ∈ text := by
  obtain ⟨char, member, encoded⟩ := List.mem_flatMap.mp member
  by_cases small : char.toNat < 0x80
  · rw [utf8EncodeChar_of_ascii small, List.mem_singleton] at encoded
    rw [encoded, toNat_ofNat_of_small (by omega), Char.ofNat_toNat]
    exact member
  · have := le_utf8EncodeChar (Nat.le_of_not_lt small) byte encoded
    omega

theorem count_lineFeed (text : List Char) : (bytes text).count lineFeed = text.count '\n' := by
  induction text with
  | nil => rfl
  | cons char text ih =>
      have first : (String.utf8EncodeChar char).count lineFeed = if char = '\n' then 1 else 0 := by
        by_cases feed : char = '\n'
        · subst feed
          rfl
        · rw [if_neg feed, List.count_eq_zero]
          intro member
          have alone : lineFeed ∈ bytes [char] := by simpa [bytes] using member
          exact feed (List.mem_singleton.mp (mem_of_ascii alone (by decide))).symm
      rw [bytes_cons, List.count_append, first, ih, List.count_cons, Nat.add_comm]
      simp only [beq_iff_eq]

end Ascii

end GraphicsProfile.Text
