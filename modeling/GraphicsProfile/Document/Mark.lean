import GraphicsProfile.Document.Reader

namespace GraphicsProfile.Document

/-- Blanks may stand between any two marks or values. -/
def isBlank (char : Char) : Bool :=
  char == ' ' || char == '\n' || char == '\t' || char == '\r'

def skipBlanks (text : List Char) : List Char :=
  text.dropWhile isBlank

theorem skipBlanks_suffix (text : List Char) : ∃ blanks, text = blanks ++ skipBlanks text :=
  ⟨text.takeWhile isBlank, List.takeWhile_append_dropWhile.symm⟩

/-- What is taken from behind blanks is taken from in front of them. -/
theorem advances_behind_blanks {text rest : List Char} {char : Char} (used : List Char)
    (split : skipBlanks text = char :: used ++ rest) :
    ∃ first more, text = first :: more ++ rest := by
  obtain ⟨blanks, whole⟩ := skipBlanks_suffix text
  rw [split] at whole
  cases blanks with
  | nil => exact ⟨char, used, whole⟩
  | cons blank more => exact ⟨blank, more ++ char :: used, by simp [whole]⟩

/-- Reads the given characters, the tail of a word whose first character announced it. -/
def word : List Char → Reader Unit
  | [], text => .ok ((), text)
  | _ :: _, [] => .error (Cause.endOfValue.before [])
  | expected :: more, char :: rest =>
    if char = expected then word more rest
    else .error (Cause.misspelledWord.behindByte (char :: rest))

theorem word_keeps (expected : List Char) : Reader.Keeps (word expected) := by
  intro text value rest success
  induction expected generalizing text with
  | nil =>
    cases success
    exact ⟨[], rfl⟩
  | cons first more ih =>
    cases text with
    | nil => cases success
    | cons char tail =>
      simp only [word] at success
      split at success
      · obtain ⟨used, split⟩ := ih success
        exact ⟨char :: used, congrArg (char :: ·) split⟩
      · cases success

def colon : Reader Unit := fun text =>
  match skipBlanks text with
  | [] => .error (Cause.endOfObject.before [])
  | ':' :: rest => .ok ((), rest)
  | rest => .error (Cause.expectedColon.behindByte rest)

theorem colon_advances : Reader.Advances colon := by
  intro text value rest success
  unfold colon at success
  split at success
  · cases success
  · rename_i found
    cases success
    exact advances_behind_blanks [] found
  · cases success

end GraphicsProfile.Document
