import GraphicsProfile.Document.Literal
import GraphicsProfile.Document.Number

namespace GraphicsProfile.Document

variable {α σ : Type}

def openKey : Reader String
  | '"' :: rest => literal rest
  | rest => .error (Cause.keyNotString.behindByte rest)

/-- The key of the first member of an object, or nothing at the closing brace. -/
def firstKey : Reader (Option String) := fun text =>
  match skipBlanks text with
  | [] => .error (Cause.endOfObject.before [])
  | '}' :: rest => .ok (none, rest)
  | rest => (some <$> openKey : Reader (Option String)) rest

def nextKey : Reader (Option String) := fun text =>
  match skipBlanks text with
  | [] => .error (Cause.endOfObject.before [])
  | '}' :: rest => .ok (none, rest)
  | ',' :: rest =>
    match skipBlanks rest with
    | [] => .error (Cause.endOfValue.before [])
    | '}' :: more => .error (Cause.trailingComma.behindByte ('}' :: more))
    | rest => (some <$> openKey : Reader (Option String)) rest
  | rest => .error (Cause.expectedObjectComma.behindByte rest)

def memberStep (member : String → σ → Reader σ) (state : σ) : Reader (Option σ) := do
  match ← nextKey with
  | none => return none
  | some key => some <$> member key state

theorem openKey_advances : Reader.Advances openKey := by
  intro text key rest success
  unfold openKey at success
  split at success
  · obtain ⟨used, split⟩ := literal_keeps success
    exact ⟨'"', used, congrArg ('"' :: ·) split⟩
  · cases success

theorem firstKey_advances : Reader.Advances firstKey := by
  intro text key rest success
  unfold firstKey at success
  split at success
  · cases success
  · rename_i found
    cases success
    exact advances_behind_blanks [] found
  · obtain ⟨⟨_, middle⟩, read, same⟩ := Reader.except_bind_eq_ok success
    cases same
    obtain ⟨char, used, split⟩ := openKey_advances read
    exact advances_behind_blanks used split

theorem nextKey_advances : Reader.Advances nextKey := by
  intro text key rest success
  unfold nextKey at success
  split at success
  · cases success
  · rename_i found
    cases success
    exact advances_behind_blanks [] found
  · rename_i found
    split at success
    · cases success
    · cases success
    · obtain ⟨⟨_, middle⟩, read, same⟩ := Reader.except_bind_eq_ok success
      cases same
      obtain ⟨char, used, split⟩ := openKey_advances read
      obtain ⟨first, more, again⟩ := advances_behind_blanks used split
      exact advances_behind_blanks (first :: more) (found.trans (congrArg (',' :: ·) again))
  · cases success

theorem memberStep_advances {member : String → σ → Reader σ}
    (keeps : ∀ key state, Reader.Keeps (member key state)) (state : σ) :
    Reader.Advances (memberStep member state) := by
  refine nextKey_advances.bind fun key => ?_
  cases key with
  | none => exact Reader.Keeps.pure none
  | some key => exact (keeps key state).bind fun value => Reader.Keeps.pure (some value)

theorem memberStep_progresses {member : String → σ → Reader σ}
    (keeps : ∀ key state, Reader.Keeps (member key state)) :
    Reader.Progresses (memberStep member) :=
  fun _ _ _ _ success => memberStep_advances keeps _ success

/-- Folds the members of an object into a state, from behind the opening brace through the closing
one. -/
def foldMembers (member : String → σ → Reader σ)
    (keeps : ∀ key state, Reader.Keeps (member key state)) (state : σ) : Reader σ := do
  match ← firstKey with
  | none => return state
  | some key =>
    let first ← member key state
    Reader.run (memberStep member) (memberStep_progresses keeps) first

theorem foldMembers_advances {member : String → σ → Reader σ}
    (keeps : ∀ key state, Reader.Keeps (member key state)) (state : σ) :
    Reader.Advances (foldMembers member keeps state) := by
  refine firstKey_advances.bind fun key => ?_
  cases key with
  | none => exact Reader.Keeps.pure state
  | some key =>
    exact (keeps key state).bind fun first =>
      Reader.run_keeps _ (fun state => (memberStep_advances keeps state).keeps) first

def firstElement : Reader Bool := fun text =>
  match skipBlanks text with
  | [] => .error (Cause.endOfList.before [])
  | ']' :: rest => .ok (false, ']' :: rest)
  | rest => .ok (true, rest)

def nextElement : Reader Bool := fun text =>
  match skipBlanks text with
  | [] => .error (Cause.endOfList.before [])
  | ']' :: rest => .ok (false, ']' :: rest)
  | ',' :: rest =>
    match skipBlanks rest with
    | [] => .error (Cause.endOfValue.before [])
    | ']' :: more => .error (Cause.trailingComma.behindByte (']' :: more))
    | rest => .ok (true, rest)
  | rest => .error (Cause.expectedListComma.behindByte rest)

def closeList : Reader Unit := fun text =>
  match skipBlanks text with
  | [] => .error (Cause.endOfList.before [])
  | ']' :: rest => .ok ((), rest)
  | ',' :: rest =>
    match skipBlanks rest with
    | ']' :: more => .error (Cause.trailingComma.behindByte (']' :: more))
    | more => .error (Cause.trailingCharacters.behindByte more)
  | rest => .error (Cause.trailingCharacters.behindByte rest)

def startsNumber : List Char → Bool
  | [] => false
  | char :: _ => char == '-' || char.isDigit

def Number.found : Number → Found
  | whole value => .integer value
  | real value => .real value

/-- What kind of value stands here. A list or an object is not entered. -/
def foundValue : Reader Found
  | [] => .error (Cause.endOfValue.before [])
  | '[' :: rest => .ok (.sequence, '[' :: rest)
  | '{' :: rest => .ok (.map, '{' :: rest)
  | '"' :: rest => (Found.text <$> literal : Reader Found) rest
  | 'n' :: rest => ((fun _ => .null) <$> word ['u', 'l', 'l'] : Reader Found) rest
  | 't' :: rest => ((fun _ => .boolean true) <$> word ['r', 'u', 'e'] : Reader Found) rest
  | 'f' :: rest => ((fun _ => .boolean false) <$> word ['a', 'l', 's', 'e'] : Reader Found) rest
  | char :: rest =>
    if startsNumber (char :: rest) then (Number.found <$> number : Reader Found) (char :: rest)
    else .error (Cause.expectedValue.behindByte (char :: rest))

/-- Refuses a value that is not of the kind its place demands. -/
def mismatch (place : Place) : Reader α := do
  let found ← foundValue
  Reader.stop (.wrongType found place)

theorem mismatch_refuses (place : Place) (text : List Char) (result : α × List Char) :
    mismatch place text ≠ .ok result := by
  intro success
  obtain ⟨_, _, _, stopped⟩ := Reader.bind_eq_ok success
  cases stopped

end GraphicsProfile.Document
