import GraphicsProfile.Proofs.Document.Members
import GraphicsProfile.Proofs.Document.Sequential.Literals
import GraphicsProfile.Proofs.Document.Sequential.Numbers

namespace GraphicsProfile.Document

open Grammar Reader Text

variable {α σ : Type} {follows : List Char → Prop} {text middle rest : List Char}

/-- A key as its first character tells it. -/
def keyFrom (char : Char) : Reader (Option String) :=
  if char = '"' then behindNext (some <$> literal) else refuse .keyNotString

theorem keyFrom_cons (char : Char) :
    (some <$> openKey : Reader (Option String)) (char :: rest) = keyFrom char (char :: rest) := by
  by_cases quoted : char = '"' <;> simp_all [openKey, keyFrom]

theorem keyFrom_sequential (char : Char) : Sequential follows (keyFrom char) :=
  .ite (.behindNext literal_sequential.map) (.refuse (by decide))

theorem openKey_sequential : Sequential Never openKey := by
  refine .glance (fun char => if char = '"' then behindNext literal else refuse .keyNotString)
    (fun char rest => ?_) (fun alike => ?_) (fun char => ?_) ⟨rfl, False.elim⟩
  · unfold openKey
    split <;> simp_all
  · simp (disch := decide) only [alike.eq_iff]
  · exact .ite (.behindNext literal_sequential) (.refuse (by decide))

theorem firstKey_sequential : Sequential follows firstKey := by
  refine .peek (.error (Cause.endOfObject.before [])) (fun char =>
      if char = '}' then behindNext (pure none) else keyFrom char)
    (fun found => ?_) (fun {_ char _} found => ?_) (fun alike => ?_) (fun char => ?_)
    ⟨rfl, fun _ => rfl⟩
  · simp only [firstKey, found]
  · simp only [firstKey, found]
    by_cases close : char = '}' <;> simp_all [← keyFrom_cons]
  · simp (disch := decide) only [keyFrom, alike.eq_iff]
  · exact .ite (.behindNext (.pure _)) (keyFrom_sequential char)

/-- The key that has to stand behind a comma. -/
def keyBehindComma : Reader (Option String) := fun text =>
  match skipBlanks text with
  | [] => .error (Cause.endOfValue.before [])
  | '}' :: rest => .error (Cause.trailingComma.behindByte ('}' :: rest))
  | rest => (some <$> openKey : Reader (Option String)) rest

theorem keyBehindComma_sequential : Sequential follows keyBehindComma := by
  refine .peek (.error (Cause.endOfValue.before [])) (fun char =>
      if char = '}' then refuse .trailingComma else keyFrom char)
    (fun found => ?_) (fun {_ char _} found => ?_) (fun alike => ?_) (fun char => ?_)
    ⟨rfl, fun _ => rfl⟩
  · simp only [keyBehindComma, found]
  · simp only [keyBehindComma, found]
    by_cases close : char = '}' <;> simp_all [← keyFrom_cons]
  · simp (disch := decide) only [keyFrom, alike.eq_iff]
  · exact .ite (.refuse (by decide)) (keyFrom_sequential char)

theorem nextKey_sequential : Sequential follows nextKey := by
  refine .peek (.error (Cause.endOfObject.before [])) (fun char =>
      if char = '}' then behindNext (pure none)
      else if char = ',' then behindNext keyBehindComma
      else refuse .expectedObjectComma)
    (fun found => ?_) (fun {_ char _} found => ?_) (fun alike => ?_) (fun char => ?_)
    ⟨rfl, fun _ => rfl⟩
  · simp only [nextKey, found]
  · simp only [nextKey, found]
    by_cases comma : char = ','
    · subst comma
      rfl
    · split <;> simp_all
  · simp (disch := decide) only [alike.eq_iff]
  · exact .ite (.behindNext (.pure _))
      (.ite (.behindNext keyBehindComma_sequential) (.refuse (by decide)))

section Fold

variable {member : String → σ → Reader σ} {exempt : String → σ → List Char → Prop}
  {last : List Char → Prop} {item : List Char → α → List Char → Prop}
  {accept : σ → α → Option σ} {keeps : ∀ key state, Keeps (member key state)} {state final : σ}

theorem keyedMember_sequential (each : ∀ key state, Sequential follows (member key state))
    (state : σ) : Sequential Never (keyedMember member state) :=
  .behindBlanks _ (openKey_sequential.bind fun key => (each key state).weaken False.elim)
    False.elim

theorem memberStep_sequential (each : ∀ key state, Sequential follows (member key state))
    (state : σ) : Sequential follows (memberStep member state) := by
  refine nextKey_sequential.bind fun key? => ?_
  cases key? with
  | none => exact .pure none
  | some key => exact (each key state).map

/-- Items up to one that is not complete. -/
def Partway (item : List Char → α → List Char → Prop) (last : List Char → Prop)
    (text : List Char) : Prop :=
  ∃ values behind, Leading item text values behind ∧ last behind

/-- A comma and then items up to one that is not complete. -/
def PartwayBehind (item : List Char → α → List Char → Prop) (last : List Char → Prop)
    (text : List Char) : Prop :=
  ∃ later, Blanks text (',' :: later) ∧ Partway item last later

theorem Partway.prepend {value : α} (first : item text value middle)
    (partway : PartwayBehind item last middle) : Partway item last text := by
  obtain ⟨later, comma, values, behind, leading, ending⟩ := partway
  exact ⟨value :: values, behind, .more first comma leading, ending⟩

theorem memberStep_orderly (each : ∀ key state, Firm follows (exempt key state) (member key state))
    (ending : ∀ {key state text middle}, openKey (skipBlanks text) = .ok (key, middle) →
      exempt key state middle → last text) (state : σ) :
    Orderly follows (PartwayBehind item last) (memberStep member state) := by
  refine .bind_settled nextKey_sequential ⟨_, rfl, rfl⟩
    (fun key? text => ∃ key, key? = some key ∧ exempt key state text)
    (fun key? => ?_) fun read given => ?_
  · cases key? with
    | none => exact (Orderly.pure none).toFirm
    | some key => exact .map ((each key state).mono fun given => ⟨key, rfl, given⟩)
  · obtain ⟨key, rfl, given⟩ := given
    obtain ⟨later, comma, opened⟩ := nextKey_eq_some_iff.mp read
    exact ⟨later, comma, [], later, .none, ending opened given⟩

/-- An object is refused for good, unless the text ends where a member is exempt. -/
theorem foldMembers_orderly (law : MemberLaw member item accept)
    (each : ∀ key state, Firm follows (exempt key state) (member key state))
    (ending : ∀ {key state text middle}, openKey (skipBlanks text) = .ok (key, middle) →
      exempt key state middle → last text) (state : σ) :
    Orderly follows (Partway item last) (foldMembers member keeps state) := by
  have rounds : ∀ {progress} (first : σ), Orderly follows (PartwayBehind item last)
      (run (memberStep member) progress first) := by
    intro progress
    refine .run (memberStep_orderly each ending) fun read partway => ?_
    obtain ⟨later, comma, read⟩ := memberStep_eq_some_iff.mp read
    obtain ⟨value, form, _⟩ := law.sound read
    exact ⟨later, comma, Partway.prepend form partway⟩
  refine .bind_settled firstKey_sequential ⟨_, rfl, rfl⟩
    (fun key? text => ∃ key, key? = some key ∧ (exempt key state text ∨
      ∃ next middle, member key state text = .ok (next, middle) ∧ PartwayBehind item last middle))
    (fun key? => ?_) fun read given => ?_
  · cases key? with
    | none => exact (Orderly.pure state).toFirm
    | some key =>
        refine ((each key state).mono fun given => ⟨key, rfl, .inl given⟩).bind _ rounds fun
          read partway => ⟨key, rfl, .inr ⟨_, _, read, partway⟩⟩
  · obtain ⟨key, rfl, given⟩ := given
    have opened := firstKey_eq_some_iff.mp read
    rcases given with given | ⟨next, middle, read, partway⟩
    · exact ⟨[], _, .none, ending opened given⟩
    · obtain ⟨value, form, _⟩ := law.sound (bind_eq_ok_iff.mpr ⟨_, _, opened, read⟩)
      exact Partway.prepend form partway

theorem memberRun_closed (each : ∀ key state, Sequential follows (member key state))
    {progress : Progresses (memberStep member)}
    (success : run (memberStep member) progress state text = .ok (final, rest)) :
    Closed (run (memberStep member) progress state) final text rest := by
  fun_induction Reader.run (memberStep member) progress state text with
  | case1 => cases success
  | case2 state text behind ended =>
      cases success
      exact .of_blanks (memberStep_eq_none_iff.mp ended) rfl fun blanks =>
        run_of_none (memberStep_eq_none_iff.mpr blanks)
  | case3 state text next middle continued ih =>
      exact (ih success).behind (memberStep_sequential each state) continued run_of_some

/-- An object ends at its closing brace. -/
theorem foldMembers_closed (each : ∀ key state, Sequential follows (member key state))
    (success : foldMembers member keeps state text = .ok (final, rest)) :
    Closed (foldMembers member keeps state) final text rest := by
  obtain ⟨key?, behind, found, success⟩ := bind_eq_ok success
  cases key? with
  | none =>
      cases success
      exact .of_blanks (firstKey_eq_none_iff.mp found) rfl fun blanks =>
        bind_eq_ok_iff.mpr ⟨_, _, firstKey_eq_none_iff.mpr blanks, rfl⟩
  | some key =>
      obtain ⟨first, between, read, rounds⟩ := bind_eq_ok success
      exact .bind (firstKey_sequential : Sequential follows firstKey) found
        (.bind (each key state) read (memberRun_closed each rounds))

end Fold

section Lists

theorem firstElement_sequential : Sequential follows firstElement := by
  refine .peek (.error (Cause.endOfList.before []))
    (fun char => if char = ']' then pure false else pure true)
    (fun found => ?_) (fun found => ?_) (fun alike => ?_) (fun char => ?_) ⟨rfl, fun _ => rfl⟩
  · simp only [firstElement, found]
  · simp only [firstElement, found]
    split <;> simp_all
  · simp (disch := decide) only [alike.eq_iff]
  · exact .ite (.pure _) (.pure _)

/-- The element that has to stand behind a comma. -/
def elementBehindComma : Reader Bool := fun text =>
  match skipBlanks text with
  | [] => .error (Cause.endOfValue.before [])
  | ']' :: rest => .error (Cause.trailingComma.behindByte (']' :: rest))
  | rest => .ok (true, rest)

theorem elementBehindComma_sequential : Sequential follows elementBehindComma := by
  refine .peek (.error (Cause.endOfValue.before []))
    (fun char => if char = ']' then refuse .trailingComma else pure true)
    (fun found => ?_) (fun found => ?_) (fun alike => ?_) (fun char => ?_) ⟨rfl, fun _ => rfl⟩
  · simp only [elementBehindComma, found]
  · simp only [elementBehindComma, found]
    split <;> simp_all
  · simp (disch := decide) only [alike.eq_iff]
  · exact .ite (.refuse (by decide)) (.pure _)

theorem nextElement_sequential : Sequential follows nextElement := by
  refine .peek (.error (Cause.endOfList.before [])) (fun char =>
      if char = ']' then pure false
      else if char = ',' then behindNext elementBehindComma
      else refuse .expectedListComma)
    (fun found => ?_) (fun {_ char _} found => ?_) (fun alike => ?_) (fun char => ?_)
    ⟨rfl, fun _ => rfl⟩
  · simp only [nextElement, found]
  · simp only [nextElement, found]
    by_cases comma : char = ','
    · subst comma
      rfl
    · split <;> simp_all
  · simp (disch := decide) only [alike.eq_iff]
  · exact .ite (.pure _) (.ite (.behindNext elementBehindComma_sequential) (.refuse (by decide)))

/-- What is said of a comma that no element may follow. -/
def surplusComma : Reader Unit := fun text =>
  match skipBlanks text with
  | ']' :: more => .error (Cause.trailingComma.behindByte (']' :: more))
  | more => .error (Cause.trailingCharacters.behindByte more)

theorem surplusComma_ne_ok (text : List Char) (result : Unit × List Char) :
    surplusComma text ≠ .ok result := by
  intro success
  simp only [surplusComma] at success
  split at success <;> cases success

theorem surplusComma_sequential : Sequential Never surplusComma := by
  refine .peek (.error (Cause.trailingCharacters.behindByte [])) (fun char =>
      if char = ']' then refuse .trailingComma else refuse .trailingCharacters)
    (fun found => ?_) (fun found => ?_) (fun alike => ?_) (fun char => ?_) ⟨rfl, False.elim⟩
  · simp only [surplusComma, found]
  · simp only [surplusComma, found]
    split <;> simp_all
  · simp (disch := decide) only [alike.eq_iff]
  · exact .ite (.refuse (by decide)) (.refuse (by decide))

theorem closeList_orderly {exempt : List Char → Prop} : Orderly Never exempt closeList := by
  refine .peek .endOfList (fun char =>
      if char = ']' then behindNext (pure ())
      else if char = ',' then behindNext surplusComma
      else refuse .trailingCharacters) Never
    (fun found => ?_) (fun {_ char _} found => ?_) (fun alike => ?_) (fun char => ?_) rfl
    False.elim
  · simp only [closeList, found]
  · simp only [closeList, found]
    by_cases comma : char = ','
    · subst comma
      rfl
    · split <;> simp_all
  · simp (disch := decide) only [alike.eq_iff]
  · refine .ite (.behindNext_strict (.pure _)) (.ite ?_ (.refuse (by decide)))
    refine surplusComma_sequential.behindNext.orderly_of_never (Wanting.patient ⟨_, rfl, rfl⟩)
      fun text result success => ?_
    cases text with
    | nil => cases success
    | cons => exact surplusComma_ne_ok _ _ success

end Lists

section Mismatches

theorem foundValue_sequential : Sequential Delimited foundValue := by
  refine .glance (fun char =>
      if char = '[' then pure .sequence
      else if char = '{' then pure .map
      else if char = '"' then behindNext (Found.text <$> literal)
      else if char = 'n' then behindNext ((fun _ => .null) <$> word ['u', 'l', 'l'])
      else if char = 't' then behindNext ((fun _ => .boolean true) <$> word ['r', 'u', 'e'])
      else if char = 'f' then behindNext ((fun _ => .boolean false) <$> word ['a', 'l', 's', 'e'])
      else if char = '-' ∨ char.isDigit then Number.found <$> number
      else refuse .expectedValue)
    (fun char rest => ?_) (fun alike => ?_) (fun char => ?_) ⟨rfl, fun _ => rfl⟩
  · unfold foundValue
    split <;> simp_all [startsNumber]
  · simp (disch := decide) only [alike.eq_iff, alike.isDigit]
  · refine .ite (.pure _) <| .ite (.pure _) <| .ite (.behindNext literal_sequential.map) ?_
    refine .ite (.behindNext (word_sequential _ (by decide)).map) ?_
    refine .ite (.behindNext (word_sequential _ (by decide)).map) ?_
    refine .ite (.behindNext (word_sequential _ (by decide)).map) ?_
    exact .ite number_sequential.map (.refuse (by decide))

theorem mismatch_sequential (place : Place) : Sequential Delimited (mismatch place : Reader α) :=
  foundValue_sequential.bind fun found => .stop (by simp [Cause.category])

theorem mismatch_wanting (place : Place) : Wanting (mismatch place : Reader α) :=
  ⟨_, rfl, rfl⟩

end Mismatches

end GraphicsProfile.Document
