import GraphicsProfile.Text.Quoted

namespace GraphicsProfile.Text

def codePointDigit? (digit : Char) : Option Nat :=
  if '0' ≤ digit ∧ digit ≤ '9' then some (digit.toNat - '0'.toNat)
  else if 'a' ≤ digit ∧ digit ≤ 'f' then some (digit.toNat - 'a'.toNat + 10)
  else none

/-- The number that the digits of a code point write. -/
def codePointValue? (digits : List Char) : Option Nat :=
  digits.foldlM (fun value digit => (codePointDigit? digit).map (value * 16 + ·)) 0

/-- Reads one character back. An escape says by itself where it ends, so the reading does not depend
on which characters were hidden. -/
def unquoteChar? : List Char → Option (Char × List Char)
  | [] => none
  | '"' :: _ => none
  | '\\' :: 't' :: rest => some ('\t', rest)
  | '\\' :: 'r' :: rest => some ('\r', rest)
  | '\\' :: 'n' :: rest => some ('\n', rest)
  | '\\' :: '0' :: rest => some ('\x00', rest)
  | '\\' :: '"' :: rest => some ('"', rest)
  | '\\' :: '\\' :: rest => some ('\\', rest)
  | '\\' :: 'u' :: '{' :: rest =>
    match codePointValue? (rest.takeWhile (· != '}')), rest.dropWhile (· != '}') with
    | some value, '}' :: behind => some (.ofNat value, behind)
    | _, _ => none
  | '\\' :: _ => none
  | char :: rest => some (char, rest)

theorem unquoteChar?_shorter {text rest : List Char} {char : Char}
    (read : unquoteChar? text = some (char, rest)) : rest.length < text.length := by
  unfold unquoteChar? at read
  split at read <;> try contradiction
  all_goals try (cases read; simp only [List.length_cons]; omega)
  rename_i tail
  split at read
  · rename_i found
    cases read
    have whole := congrArg List.length (List.takeWhile_append_dropWhile (p := (· != '}')) (l := tail))
    rw [found, List.length_append] at whole
    simp only [List.length_cons] at whole ⊢
    omega
  · contradiction

/-- Reads the characters of a quoted text, from behind the opening quote through the closing one,
which has to be the last character. -/
def unquoteBody? (text : List Char) : Option (List Char) :=
  if text = ['"'] then some []
  else
    match _ : unquoteChar? text with
    | some (char, rest) => (unquoteBody? rest).map (char :: ·)
    | none => none
termination_by text.length
decreasing_by exact unquoteChar?_shorter ‹_›

def unquote? (text : String) : Option String :=
  match text.toList with
  | '"' :: body => (unquoteBody? body).map String.ofList
  | _ => none

end GraphicsProfile.Text
