import GraphicsProfile.Document.Literal
import GraphicsProfile.Document.Number

/-!
Values of members that have no meaning here are passed over, at any depth.

The brackets that are open form a stack, so a deep value takes memory and no recursion. Each round
closes the innermost bracket or passes over one of its members.
-/

namespace GraphicsProfile.Document

inductive Bracket where
  | list
  | object
  deriving DecidableEq

namespace Bracket

def closing : Bracket → Char
  | list => ']'
  | object => '}'

def unfinished : Bracket → Cause
  | list => .endOfList
  | object => .endOfObject

def unseparated : Bracket → Cause
  | list => .expectedListComma
  | object => .expectedObjectComma

end Bracket

/-- Passes over a value that has no members. -/
def skipScalar : Reader Unit
  | [] => .error (Cause.endOfValue.before [])
  | '"' :: rest => skipLiteral rest
  | 'n' :: rest => word ['u', 'l', 'l'] rest
  | 't' :: rest => word ['r', 'u', 'e'] rest
  | 'f' :: rest => word ['a', 'l', 's', 'e'] rest
  | '-' :: rest => skipMagnitude rest
  | char :: rest =>
    if char.isDigit then skipMagnitude (char :: rest)
    else .error (Cause.expectedValue.behindByte (char :: rest))

/-- Opens a bracket and gives it, or passes over a value that has none. -/
def skipOpening : Reader (Option Bracket) := fun text =>
  match skipBlanks text with
  | '[' :: rest => .ok (some .list, rest)
  | '{' :: rest => .ok (some .object, rest)
  | rest => do
    let (_, rest) ← skipScalar rest
    return (none, rest)

def skipKey : Reader Unit := fun text =>
  match skipBlanks text with
  | [] => .error (Cause.endOfObject.before [])
  | '"' :: rest => skipLiteral rest
  | rest => .error (Cause.keyNotString.behindByte rest)

/-- Passes over what introduces the value of a member: in an object, its key and the colon. -/
def skipIntroduction : Bracket → Reader Unit
  | .list => pure ()
  | .object => do
    skipKey
    colon

/-- The brackets that are open, the innermost first, and whether that one has had no member yet. -/
structure Nesting where
  fresh : Bool
  brackets : List Bracket
  deriving DecidableEq

/-- Passes over a member of the innermost bracket, up to the first bracket inside it. -/
def skipMember (bracket : Bracket) (outer : List Bracket) : Reader Nesting := do
  skipIntroduction bracket
  match ← skipOpening with
  | none => return ⟨false, bracket :: outer⟩
  | some inner => return ⟨true, inner :: bracket :: outer⟩

/-- One round: what follows closes the innermost bracket or is its next member. -/
def skipStep (nesting : Nesting) : Reader (Option Nesting) := fun text =>
  match nesting.brackets with
  | [] => .ok (none, text)
  | bracket :: outer =>
    match skipBlanks text with
    | [] => .error (bracket.unfinished.before [])
    | char :: rest =>
      if char = bracket.closing then
        .ok (some ⟨false, outer⟩, rest)
      else if nesting.fresh then
        (some <$> skipMember bracket outer : Reader (Option Nesting)) (char :: rest)
      else if char = ',' then
        (some <$> skipMember bracket outer : Reader (Option Nesting)) rest
      else
        .error (bracket.unseparated.behindByte (char :: rest))

theorem skipScalar_advances : Reader.Advances skipScalar := by
  intro text value rest success
  unfold skipScalar at success
  split at success
  · cases success
  · obtain ⟨used, split⟩ := skipLiteral_keeps success
    exact ⟨_, used, congrArg ('"' :: ·) split⟩
  · obtain ⟨used, split⟩ := word_keeps _ success
    exact ⟨_, used, congrArg ('n' :: ·) split⟩
  · obtain ⟨used, split⟩ := word_keeps _ success
    exact ⟨_, used, congrArg ('t' :: ·) split⟩
  · obtain ⟨used, split⟩ := word_keeps _ success
    exact ⟨_, used, congrArg ('f' :: ·) split⟩
  · obtain ⟨used, split⟩ := skipMagnitude_advances.keeps success
    exact ⟨_, used, congrArg ('-' :: ·) split⟩
  · split at success
    · exact skipMagnitude_advances success
    · cases success

theorem skipOpening_advances : Reader.Advances skipOpening := by
  intro text value rest success
  unfold skipOpening at success
  split at success
  · rename_i found
    cases success
    exact advances_behind_blanks [] found
  · rename_i found
    cases success
    exact advances_behind_blanks [] found
  · obtain ⟨⟨_, middle⟩, read, same⟩ := Reader.except_bind_eq_ok success
    cases same
    obtain ⟨char, used, split⟩ := skipScalar_advances read
    exact advances_behind_blanks used split

theorem skipKey_advances : Reader.Advances skipKey := by
  intro text value rest success
  unfold skipKey at success
  split at success
  · cases success
  · rename_i found
    obtain ⟨used, split⟩ := skipLiteral_keeps success
    exact advances_behind_blanks used (found.trans (congrArg ('"' :: ·) split))
  · cases success

theorem skipIntroduction_keeps (bracket : Bracket) : Reader.Keeps (skipIntroduction bracket) := by
  cases bracket with
  | list => exact Reader.Keeps.pure ()
  | object => exact skipKey_advances.keeps.bind fun _ => colon_advances.keeps

theorem skipMember_advances (bracket : Bracket) (outer : List Bracket) :
    Reader.Advances (skipMember bracket outer) := by
  refine (skipIntroduction_keeps bracket).bind_advances fun _ => skipOpening_advances.bind ?_
  intro opened
  cases opened <;> exact Reader.Keeps.pure _

theorem skipStep_progresses : Reader.Progresses skipStep := by
  intro nesting text next rest success
  unfold skipStep at success
  split at success
  · cases success
  · split at success
    · cases success
    · rename_i found
      split at success
      · cases success
        exact advances_behind_blanks [] found
      · split at success
        · obtain ⟨⟨_, middle⟩, read, same⟩ := Reader.except_bind_eq_ok success
          cases same
          obtain ⟨char, used, split⟩ := skipMember_advances _ _ read
          exact advances_behind_blanks _ (found.trans split)
        · split at success
          · obtain ⟨⟨_, middle⟩, read, same⟩ := Reader.except_bind_eq_ok success
            cases same
            obtain ⟨char, used, split⟩ := skipMember_advances _ _ read
            exact advances_behind_blanks (_ :: _) (found.trans (congrArg (_ :: ·) split))
          · cases success

/-- Passes over a value of any kind and depth. -/
def skipValue : Reader Unit := do
  match ← skipOpening with
  | none => return ()
  | some bracket =>
    let _ ← Reader.run skipStep skipStep_progresses ⟨true, [bracket]⟩

theorem skipStep_keeps (nesting : Nesting) : Reader.Keeps (skipStep nesting) := by
  intro text next rest success
  cases next with
  | some _ =>
    obtain ⟨char, used, split⟩ := skipStep_progresses success
    exact ⟨char :: used, split⟩
  | none =>
    unfold skipStep at success
    split at success
    · cases success
      exact ⟨[], rfl⟩
    · split at success
      · cases success
      · split at success
        · cases success
        · split at success
          · obtain ⟨_, _, same⟩ := Reader.except_bind_eq_ok success
            cases same
          · split at success
            · obtain ⟨_, _, same⟩ := Reader.except_bind_eq_ok success
              cases same
            · cases success

theorem skipValue_advances : Reader.Advances skipValue := by
  refine skipOpening_advances.bind fun opened => ?_
  cases opened with
  | none => exact Reader.Keeps.pure ()
  | some bracket =>
    exact (Reader.run_keeps skipStep_progresses skipStep_keeps _).bind fun _ =>
      Reader.Keeps.pure ()

end GraphicsProfile.Document
