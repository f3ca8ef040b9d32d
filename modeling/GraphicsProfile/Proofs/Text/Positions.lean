import GraphicsProfile.Text.Position

namespace GraphicsProfile.Text

variable {left right : Char} {text front back : List Char}

@[simp]
theorem bytes_cons (char : Char) (text : List Char) :
    bytes (char :: text) = String.utf8EncodeChar char ++ bytes text := rfl

theorem bytes_append (front back : List Char) : bytes (front ++ back) = bytes front ++ bytes back :=
  List.flatMap_append

theorem take_bytes_cons {char : Char} {count : Nat} (enough : char.utf8Size ≤ count) :
    (bytes (char :: text)).take count =
      String.utf8EncodeChar char ++ (bytes text).take (count - char.utf8Size) := by
  have size := String.length_utf8EncodeChar char
  rw [bytes_cons, List.take_append, List.take_of_length_le (by omega), size]

theorem eq_of_utf8EncodeChar (same : String.utf8EncodeChar left = String.utf8EncodeChar right) :
    left = right := by
  have decoded := ByteArray.utf8DecodeChar?_utf8EncodeChar_append (b := .empty) (c := left)
  rw [same, ByteArray.utf8DecodeChar?_utf8EncodeChar_append] at decoded
  exact (Option.some.inj decoded).symm

/-- How many bytes a character has that starts with the given one. -/
def sizeOfFirst (byte : UInt8) : Nat :=
  if byte.toNat < 0x80 then 1 else if byte.toNat < 0xE0 then 2
  else if byte.toNat < 0xF0 then 3 else 4

theorem utf8EncodeChar_first (char : Char) :
    ∃ first later, String.utf8EncodeChar char = first :: later ∧
      char.utf8Size = sizeOfFirst first := by
  obtain ⟨first, later, encoded⟩ : ∃ first later, String.utf8EncodeChar char = first :: later :=
    List.exists_cons_of_ne_nil String.utf8EncodeChar_ne_nil
  refine ⟨first, later, encoded, ?_⟩
  rw [← String.length_utf8EncodeChar, encoded]
  rw [String.utf8EncodeChar.eq_def] at encoded
  dsimp only at encoded
  -- The first byte is below 0x80, or its upper bits count the bytes.
  split at encoded
  · cases encoded
    rw [sizeOfFirst, UInt8.toNat_ofNat', if_pos (by omega)]
    rfl
  · split at encoded
    · cases encoded
      rw [sizeOfFirst, UInt8.toNat_ofNat', if_neg (by omega), if_pos (by omega)]
      rfl
    · split at encoded
      · cases encoded
        rw [sizeOfFirst, UInt8.toNat_ofNat', if_neg (by omega), if_neg (by omega),
          if_pos (by omega)]
        rfl
      · cases encoded
        rw [sizeOfFirst, UInt8.toNat_ofNat', if_neg (by omega), if_neg (by omega),
          if_neg (by omega)]
        rfl

/-- Texts that start with the same byte start with characters of the same size. -/
theorem utf8Size_of_first
    (same : (String.utf8EncodeChar left).head? = (String.utf8EncodeChar right).head?) :
    left.utf8Size = right.utf8Size := by
  obtain ⟨first, later, encoded, size⟩ := utf8EncodeChar_first left
  obtain ⟨first', later', encoded', size'⟩ := utf8EncodeChar_first right
  rw [encoded, encoded'] at same
  rw [size, size', Option.some.inj same]

/-- The place behind the given bytes: its line counts the line feeds in front of it, and its column
the bytes behind the last of them. -/
structure Reached (read : List UInt8) (position : Position) : Prop where
  line : position.line = 1 + read.count lineFeed
  column : ∃ earlier current, read = earlier ++ current ∧ lineFeed ∉ current ∧
    (earlier = [] ∨ earlier.getLast? = some lineFeed) ∧ position.column = current.length

theorem reached_after (read : List UInt8) : Reached read (.after read) where
  line := rfl
  column := by
    let current := read.reverse.takeWhile (· != lineFeed)
    let earlier := read.reverse.dropWhile (· != lineFeed)
    refine ⟨earlier.reverse, current.reverse, ?_, fun member => ?_, ?_, ?_⟩
    · rw [← List.reverse_append, List.takeWhile_append_dropWhile, List.reverse_reverse]
    · have passed := List.all_eq_true.mp List.all_takeWhile _ (List.mem_reverse.mp member)
      simp at passed
    · rw [List.getLast?_reverse, List.reverse_eq_nil_iff]
      cases found : earlier with
      | nil => exact .inl rfl
      | cons byte bytes =>
          have stopped := List.head?_dropWhile_not (· != lineFeed) read.reverse
          rw [show read.reverse.dropWhile (· != lineFeed) = byte :: bytes from found] at stopped
          exact .inr (congrArg some (by simpa using stopped))
    · exact List.length_reverse.symm

/-- The position in a text that other bytes have been put in front of. Their line feeds move it
down; on the first line, those behind the last line feed move it to the right. -/
def Position.movedBy (position : Position) (front : List UInt8) : Position :=
  ⟨position.line + front.count lineFeed,
    if position.line = 1 then
      position.column + (front.reverse.takeWhile (· != lineFeed)).length
    else
      position.column⟩

theorem line_after_eq_one_iff {read : List UInt8} :
    (Position.after read).line = 1 ↔ lineFeed ∉ read := by
  rw [← List.count_eq_zero]
  simp [Position.after]

theorem column_after_of_lineFeed {back : List UInt8} (front : List UInt8) (feed : lineFeed ∈ back) :
    (Position.after (front ++ back)).column = (Position.after back).column := by
  have stopped : (back.reverse.takeWhile (· != lineFeed)).length ≠ back.reverse.length := by
    intro whole
    have all := back.reverse.takeWhile_prefix (· != lineFeed)
    have passed := List.all_eq_true.mp List.all_takeWhile lineFeed
      (all.eq_of_length whole ▸ List.mem_reverse.mpr feed)
    exact absurd passed (by decide)
  simp only [Position.after, List.reverse_append, List.takeWhile_append, if_neg stopped]

theorem column_after_of_no_lineFeed {back : List UInt8} (front : List UInt8)
    (noFeed : lineFeed ∉ back) :
    (Position.after (front ++ back)).column =
      back.length + (front.reverse.takeWhile (· != lineFeed)).length := by
  have passed : ∀ byte ∈ back.reverse, (byte != lineFeed) = true := fun byte member =>
    bne_iff_ne.mpr fun same => noFeed (same ▸ List.mem_reverse.mp member)
  simp only [Position.after, List.reverse_append, List.takeWhile_append_of_pos passed,
    List.length_append, List.length_reverse]

theorem position_after_append (front back : List UInt8) :
    Position.after (front ++ back) = (Position.after back).movedBy front := by
  have line : (Position.after (front ++ back)).line =
      (Position.after back).line + front.count lineFeed := by
    simp only [Position.after, List.count_append]
    omega
  have column : (Position.after (front ++ back)).column =
      ((Position.after back).movedBy front).column := by
    rw [Position.movedBy]
    split
    · rename_i first
      have noFeed := line_after_eq_one_iff.mp first
      have whole := column_after_of_no_lineFeed [] noFeed
      rw [column_after_of_no_lineFeed front noFeed]
      exact congrArg (· + _) whole.symm
    · rename_i later
      refine column_after_of_lineFeed front (Decidable.byContradiction fun noFeed => later ?_)
      exact line_after_eq_one_iff.mpr noFeed
  exact (Position.mk.injEq ..).mpr ⟨line, column⟩

/-- Going on in a text moves the line or the column. -/
theorem position_after_inj {read : List UInt8} {here there : Nat} (within : here ≤ read.length)
    (within' : there ≤ read.length)
    (same : Position.after (read.take here) = Position.after (read.take there)) : here = there := by
  have onward : ∀ {here there : Nat}, here < there → there ≤ read.length →
      Position.after (read.take here) ≠ Position.after (read.take there) := by
    intro here there further within same
    obtain ⟨line, column⟩ := Position.mk.inj same
    have split : read.take there = read.take here ++ (read.drop here).take (there - here) := by
      rw [← List.take_add, Nat.add_sub_of_le (Nat.le_of_lt further)]
    have noFeed : ∀ byte ∈ (read.drop here).take (there - here), (byte != lineFeed) = true := by
      intro byte member
      rw [split, List.count_append] at line
      have none : ((read.drop here).take (there - here)).count lineFeed = 0 := by omega
      replace none := List.count_eq_zero.mp none
      exact bne_iff_ne.mpr fun feed => none (feed ▸ member)
    have longer : ((read.drop here).take (there - here)).length = there - here := by
      rw [List.length_take, List.length_drop]
      omega
    rw [split, List.reverse_append, List.takeWhile_append_of_pos
      fun byte member => noFeed byte (List.mem_reverse.mp member), List.length_append,
      List.length_reverse, longer] at column
    omega
  rcases Nat.lt_trichotomy here there with further | same | further
  · exact absurd same (onward further within')
  · exact same
  · exact absurd same.symm (onward further within)

end GraphicsProfile.Text
