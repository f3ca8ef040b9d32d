import GraphicsProfile.Document.Member
import GraphicsProfile.Document.Skipping
import GraphicsProfile.Registry

/-!
Reading a registry from a document.

A document is an object or a list. The object has at most one member for the name and at most one
for the bindings; other members may be there in any number and mean nothing. The list holds the
name and then the bindings, and may end early. What is absent is empty.
-/

namespace GraphicsProfile.Document

structure Draft where
  name? : Option String
  bindings? : Option (Table UInt32)
  deriving DecidableEq

namespace Draft

def empty : Draft := ⟨none, none⟩

def has (draft : Draft) : Field → Bool
  | .name => draft.name?.isSome
  | .bindings => draft.bindings?.isSome

def registry (draft : Draft) : Registry :=
  ⟨draft.name?.getD "", draft.bindings?.getD .empty⟩

end Draft

def nameValue : Reader String := fun text =>
  match skipBlanks text with
  | '"' :: rest => literal rest
  | rest => mismatch .name rest

/-- A number that is to be a code. -/
def codeOfNumber : Number → Reader UInt32
  | .whole value =>
    if 0 ≤ value ∧ value < 0x100000000 then pure (.ofNat value.toNat)
    else Reader.stop (.codeOutOfRange value)
  | .real value => Reader.stop (.wrongType (.real value) .code)

def codeValue : Reader UInt32 := fun text =>
  if startsNumber (skipBlanks text) then
    (number >>= codeOfNumber : Reader UInt32) (skipBlanks text)
  else
    mismatch .code (skipBlanks text)

/-- One binding, from behind its name. -/
def bindingMember (name : String) (bindings : Table UInt32) : Reader (Table UInt32) := do
  colon
  let code ← codeValue
  return bindings.insert name code

theorem codeOfNumber_keeps (number : Number) : Reader.Keeps (codeOfNumber number) := by
  unfold codeOfNumber
  split
  · split
    · exact Reader.Keeps.pure _
    · exact (Reader.stop_advances _).keeps
  · exact (Reader.stop_advances _).keeps

theorem codeValue_advances : Reader.Advances codeValue := by
  intro text code rest success
  unfold codeValue at success
  split at success
  · obtain ⟨char, used, split⟩ := number_advances.bind codeOfNumber_keeps success
    exact advances_behind_blanks used split
  · exact absurd success (mismatch_refuses _ _ _)

theorem bindingMember_keeps (name : String) (bindings : Table UInt32) :
    Reader.Keeps (bindingMember name bindings) :=
  colon_advances.keeps.bind fun _ => codeValue_advances.keeps.bind fun _ => Reader.Keeps.pure _

/-- The bindings of a registry. The last code of a name that is repeated stays. -/
def bindingsValue : Reader (Table UInt32) := fun text =>
  match skipBlanks text with
  | '{' :: rest => foldMembers bindingMember bindingMember_keeps .empty rest
  | rest => mismatch .bindings rest

theorem nameValue_advances : Reader.Advances nameValue := by
  intro text name rest success
  unfold nameValue at success
  split at success
  · rename_i found
    obtain ⟨used, split⟩ := literal_keeps success
    exact advances_behind_blanks used (found.trans (congrArg ('"' :: ·) split))
  · exact absurd success (mismatch_refuses _ _ _)

theorem bindingsValue_advances : Reader.Advances bindingsValue := by
  intro text bindings rest success
  unfold bindingsValue at success
  split at success
  · rename_i found
    obtain ⟨char, used, split⟩ := foldMembers_advances _ _ success
    exact advances_behind_blanks (char :: used) (found.trans (congrArg ('{' :: ·) split))
  · exact absurd success (mismatch_refuses _ _ _)

/-- Refuses a field that has been read before. The report stands behind the blanks that follow the
key, and behind a closing brace if that is what comes next. -/
def refuseRepeated (field : Field) : Reader Draft := fun text =>
  match skipBlanks text with
  | '}' :: rest => .error ((Cause.duplicateField field).before rest)
  | rest => .error ((Cause.duplicateField field).before rest)

def fieldValue (draft : Draft) : Field → Reader Draft
  | .name => do
    colon
    let name ← nameValue
    return { draft with name? := some name }
  | .bindings => do
    colon
    let bindings ← bindingsValue
    return { draft with bindings? := some bindings }

/-- One member of a document, from behind its key. -/
def documentMember (key : String) (draft : Draft) : Reader Draft :=
  match Field.ofKey? key with
  | some field => if draft.has field then refuseRepeated field else fieldValue draft field
  | none => do
    colon
    skipValue
    return draft

theorem documentMember_keeps (key : String) (draft : Draft) :
    Reader.Keeps (documentMember key draft) := by
  unfold documentMember
  split
  · split
    · intro text result rest success
      unfold refuseRepeated at success
      split at success <;> cases success
    · rename_i field _ _
      cases field with
      | name =>
        exact colon_advances.keeps.bind fun _ => nameValue_advances.keeps.bind fun _ =>
          Reader.Keeps.pure _
      | bindings =>
        exact colon_advances.keeps.bind fun _ => bindingsValue_advances.keeps.bind fun _ =>
          Reader.Keeps.pure _
  · exact colon_advances.keeps.bind fun _ => skipValue_advances.keeps.bind fun _ =>
      Reader.Keeps.pure _

def documentElements : Reader Draft := do
  match ← firstElement with
  | false => return .empty
  | true =>
    let name ← nameValue
    match ← nextElement with
    | false => return ⟨some name, none⟩
    | true =>
      let bindings ← bindingsValue
      return ⟨some name, some bindings⟩

def documentValue : Reader Draft := fun text =>
  match skipBlanks text with
  | '{' :: rest => foldMembers documentMember documentMember_keeps .empty rest
  | '[' :: rest => do
    let (draft, rest) ← documentElements rest
    let (_, rest) ← closeList rest
    return (draft, rest)
  | rest => mismatch .document rest

def documentEnd : Reader Unit := fun text =>
  match skipBlanks text with
  | [] => .ok ((), [])
  | rest => .error (Cause.trailingCharacters.behindByte rest)

def wholeDocument : Reader Registry := do
  let draft ← documentValue
  documentEnd
  return draft.registry

def readRegistry (document : List Char) : Except Fault Registry :=
  (wholeDocument document).map (·.1)

end GraphicsProfile.Document

namespace GraphicsProfile

/-- The registry that a document describes, or where and why the document is refused. -/
def Registry.ofDocument (document : String) : Except Document.DocumentError Registry :=
  (Document.readRegistry document.toList).mapError (·.within document.toList)

end GraphicsProfile
