import GraphicsProfile.Proofs.Document.Causes
import GraphicsProfile.Proofs.Document.Fronts

namespace GraphicsProfile.Document

open Grammar Reader Text

variable {α σ : Type} {text members last spelled behind rest left used : List Char} {key : String}
  {draft : Draft} {field : Field} {fault : Fault}

theorem Grammar.BlanksAndBrace.exists_front (passed : BlanksAndBrace text rest) :
    ∃ front, text = front ++ rest := by
  cases passed with
  | brace blanks =>
      obtain ⟨front, rfl, _⟩ := blanks.exists_front
      exact ⟨front ++ ['}'], by simp⟩
  | another blanks _ _ =>
      obtain ⟨front, split, _⟩ := blanks.exists_front
      exact ⟨front, split⟩
  | ended blanks =>
      obtain ⟨front, split, _⟩ := blanks.exists_front
      exact ⟨front, split⟩

theorem Grammar.BlanksAndBrace.behind_brace (passed : BlanksAndBrace text left)
    (blanks : Blanks text ('}' :: rest)) : left = rest := by
  cases passed with
  | brace blanks' =>
      cases blanks'.mark_unique blanks rfl rfl
      rfl
  | another blanks' visible noBrace =>
      cases blanks'.mark_unique blanks (isBlank_eq_false_iff.mpr visible) rfl
      contradiction
  | ended blanks' =>
      have found := blanks'.skipBlanks_eq.symm.trans (skipBlanks_eq_cons_iff.mpr ⟨blanks, rfl⟩)
      cases found

theorem refuseRepeated_eq (field : Field) (text : List Char) :
    ∃ left, BlanksAndBrace text left ∧
      refuseRepeated field text = .error ((Cause.duplicateField field).before left) := by
  simp only [refuseRepeated]
  split
  · rename_i found
    exact ⟨_, .brace (skipBlanks_eq_cons_iff.mp found).1, rfl⟩
  · rename_i noBrace
    refine ⟨_, ?_, rfl⟩
    cases found : skipBlanks text with
    | nil => exact .ended (skipBlanks_eq_nil_iff.mp found)
    | cons char rest =>
        obtain ⟨blanks, visible⟩ := skipBlanks_eq_cons_iff.mp found
        refine .another blanks (isBlank_eq_false_iff.mp visible) ?_
        rintro rfl
        exact noBrace _ found

theorem documentMember_of_present (present : draft.has field = true) :
    documentMember field.key draft = refuseRepeated field := by
  simp [documentMember, ofKey?_eq_some_iff.mpr rfl, present]

/-- A document that repeats a field is refused at the key, whatever follows. -/
theorem wholeDocument_of_repeats (repeats : Repeats field text behind) :
    ∃ used left, text = used ++ left ∧ BlanksAndBrace behind left ∧
      wholeDocument text = .error ((Cause.duplicateField field).before left) := by
  obtain ⟨before, leading, unrepeated, present, quote, again⟩ := repeats
  obtain ⟨draft, folded⟩ : ∃ draft, List.foldlM Draft.accept Draft.empty _ = some draft :=
    ⟨_, accepted_iff_unrepeated.mpr ⟨unrepeated, rfl⟩⟩
  obtain ⟨used, split, passes⟩ := wholeDocument_of_leading before leading folded quote again
  obtain ⟨left, passed, refused⟩ := refuseRepeated_eq field behind
  obtain ⟨gap, rfl⟩ := passed.exists_front
  refine ⟨used ++ gap, left, by simpa using split, passed, ?_⟩
  rw [split, passes, documentMember_of_present ((has_of_accepted folded).mpr present)]
  exact bind_eq_of_error refused

section Members

variable {member : String → σ → Reader σ} {item : List Char → α → List Char → Prop}
  {accept : σ → α → Option σ} {state : σ}

/-- Items that are accepted, and behind them a member that is refused behind its key. -/
inductive FaultyMember (member : String → σ → Reader σ) (item : List Char → α → List Char → Prop)
    (accept : σ → α → Option σ) (fault : Fault) (state : σ) (text : List Char) : Prop where
  | behindKey {values : List α} {final : σ} {key : String} {last spelled behind : List Char}
      (leading : Leading item text values last) (folded : values.foldlM accept state = some final)
      (quote : Blanks last ('"' :: spelled)) (form : Literal spelled key.toList behind)
      (stopped : member key final behind = .error fault) :
      FaultyMember member item accept fault state text

theorem FaultyMember.prepend {next : σ} {value : α} {middle later : List Char}
    (first : item text value middle) (accepted : accept state value = some next)
    (comma : Blanks middle (',' :: later))
    (faulty : FaultyMember member item accept fault next later) :
    FaultyMember member item accept fault state text := by
  obtain ⟨leading, folded, quote, form, stopped⟩ := faulty
  refine .behindKey (.more first comma leading) ?_ quote form stopped
  rw [List.foldlM_cons, accepted]
  exact folded

theorem FaultyMember.of_openKey (opened : openKey (skipBlanks text) = .ok (key, behind))
    (stopped : member key state behind = .error fault) :
    FaultyMember member item accept fault state text := by
  obtain ⟨spelled, found, form⟩ := openKey_eq_ok_iff.mp opened
  exact .behindKey .none rfl (skipBlanks_eq_cons_iff.mp found).1 form stopped

theorem map_eq_error_iff {β : Type} {reader : Reader α} {change : α → β} :
    (change <$> reader) text = .error fault ↔ reader text = .error fault := by
  rw [map_text]
  cases reader text <;> simp

theorem memberRun_faulty (law : MemberLaw member item accept)
    {progress : Progresses (memberStep member)}
    (stopped : run (memberStep member) progress state text = .error fault)
    (informal : ¬ Formal fault.cause) :
    ∃ later, Blanks text (',' :: later) ∧ FaultyMember member item accept fault state later := by
  fun_induction Reader.run (memberStep member) progress state text with
  | case1 state text other failed =>
      cases stopped
      rcases bind_eq_error_iff.mp failed with failed | ⟨key?, middle, found, failed⟩
      · exact absurd (nextKey_faults failed) informal
      · cases key? with
        | none => cases failed
        | some key =>
            obtain ⟨later, comma, opened⟩ := nextKey_eq_some_iff.mp found
            exact ⟨later, comma, .of_openKey opened (map_eq_error_iff.mp failed)⟩
  | case2 => cases stopped
  | case3 state text next middle continued ih =>
      obtain ⟨later, comma, read⟩ := memberStep_eq_some_iff.mp continued
      obtain ⟨value, form, accepted⟩ := law.sound read
      obtain ⟨later', comma', faulty⟩ := ih stopped
      exact ⟨later, comma, faulty.prepend form accepted comma'⟩

/-- A fault of an object that is not one of form is the fault of one of its members. -/
theorem foldMembers_faulty (law : MemberLaw member item accept)
    {keeps : ∀ key state, Keeps (member key state)}
    (stopped : foldMembers member keeps state text = .error fault)
    (informal : ¬ Formal fault.cause) : FaultyMember member item accept fault state text := by
  rcases bind_eq_error_iff.mp stopped with stopped | ⟨key?, middle, found, stopped⟩
  · exact absurd (firstKey_faults stopped) informal
  · cases key? with
    | none => cases stopped
    | some key =>
        have opened := firstKey_eq_some_iff.mp found
        rcases bind_eq_error_iff.mp stopped with stopped | ⟨next, behind, read, stopped⟩
        · exact .of_openKey opened stopped
        · obtain ⟨value, form, accepted⟩ := law.sound (bind_eq_ok_iff.mpr ⟨_, _, opened, read⟩)
          obtain ⟨later, comma, faulty⟩ := memberRun_faulty law stopped informal
          exact faulty.prepend form accepted comma

end Members

theorem documentMember_repeated (stopped : documentMember key draft text = .error fault)
    (repeated : fault.cause = .duplicateField field) :
    key = field.key ∧ draft.has field = true := by
  cases known : Field.ofKey? key with
  | none =>
      simp only [documentMember, known] at stopped
      have faults : Faults Unrelated (colon >>= fun _ => skipValue >>= fun _ => pure draft) :=
        colon_faults.unrelated.bind fun _ => skipValue_faults.unrelated.bind fun _ => .pure _
      exact absurd repeated (faults stopped field)
  | some other =>
      simp only [documentMember, known] at stopped
      by_cases present : draft.has other = true
      · rw [if_pos present] at stopped
        obtain ⟨left, _, refused⟩ := refuseRepeated_eq other text
        rw [refused] at stopped
        cases stopped
        cases repeated
        exact ⟨ofKey?_eq_some_iff.mp known, present⟩
      · rw [if_neg present] at stopped
        exact absurd repeated (fieldValue_faults draft other stopped field)

theorem repeats_of_fault (stopped : wholeDocument text = .error fault)
    (repeated : fault.cause = .duplicateField field) : ∃ behind, Repeats field text behind := by
  have informal : ¬ Formal fault.cause := fun formal => unrelated_of_formal formal field repeated
  rcases bind_eq_error_iff.mp stopped with stopped | ⟨held, middle, _, stopped⟩
  · simp only [documentValue] at stopped
    split at stopped
    · rename_i members found
      obtain ⟨leading, folded, quote, form, stopped⟩ :=
        foldMembers_faulty documentLaw stopped informal
      obtain ⟨rfl, present⟩ := documentMember_repeated stopped repeated
      exact ⟨_, .key (skipBlanks_eq_cons_iff.mp found).1 leading
        (accepted_iff_unrepeated.mp folded).1 ((has_of_accepted folded).mp present) quote form⟩
    · have faults : Faults Unrelated (documentElements >>= fun draft =>
          closeList >>= fun _ => pure draft) :=
        documentElements_faults.bind fun _ => closeList_faults.unrelated.bind fun _ => .pure _
      exact absurd repeated (faults stopped field)
    · exact absurd repeated (mismatch_faults .document stopped field)
  · have faults : Faults Formal (documentEnd >>= fun _ => pure held.registry) :=
      documentEnd_faults.bind fun _ => .pure _
    exact absurd (faults stopped) informal

/-- The text of an error tells that a field is repeated. -/
theorem repeated_of_begins {error : DocumentError}
    (begins : "duplicate field".toList <+: error.message.toList) :
    ∃ field, error.cause = .duplicateField field := by
  obtain ⟨first, head, _, repeated⟩ := description_head? error.cause
  exact repeated (head?_of_begins begins (by decide) head)

/-- The key of a field that the document has already is refused at once, in any spelling and
whatever follows it. No other document is refused as one that repeats a field. -/
theorem load_refuses_repetition (document : String) :
    (∀ field behind, Repeats field document.toList behind → ∃ error used left,
      Registry.load document = ⟨.error (.badDocument error), []⟩ ∧
      document.toList = used ++ left ∧ BlanksAndBrace behind left ∧
      error.category.label = "data" ∧ error.position = .after (bytes used) ∧
      error.message = "duplicate field `" ++ field.key ++ "`" ++
        " at line " ++ toString error.position.line ++
        " column " ++ toString error.position.column) ∧
    ∀ error, (Registry.load document).value = .error (.badDocument error) →
      "duplicate field".toList <+: error.message.toList →
        ∃ field behind, Repeats field document.toList behind := by
  refine ⟨fun field behind repeats => ?_, fun error refused begins => ?_⟩
  · obtain ⟨used, left, split, passed, stopped⟩ := wholeDocument_of_repeats repeats
    have refused := load_of_fault (readRegistry_eq_error_iff.mpr stopped)
    rw [within_before split] at refused
    exact ⟨_, used, left, refused, split, passed, rfl, rfl, rfl⟩
  · obtain ⟨fault, stopped, rfl⟩ := load_eq_refused_iff.mp refused
    obtain ⟨field, repeated⟩ := repeated_of_begins begins
    obtain ⟨behind, repeats⟩ := repeats_of_fault stopped repeated
    exact ⟨field, behind, repeats⟩

theorem load_refuses_repetition_respelled :
    ∃ error, Registry.load "\x7b\"name\":\"\",\"n\\u0061me\" \x7d?" =
      ⟨.error (.badDocument error), []⟩ ∧ error.position = ⟨1, 24⟩ := by
  have letter : ∀ {char : Char} {rest}, char ≠ '"' ∧ char ≠ '\\' ∧ 0x20 ≤ char.toNat →
      Piece (char :: rest) char rest := fun given => .plain given.1 given.2.1 given.2.2
  have name : ∀ rest, Literal ('n' :: 'a' :: 'm' :: 'e' :: '"' :: rest) "name".toList rest :=
    fun _ => .piece (letter (by decide)) <| .piece (letter (by decide)) <|
      .piece (letter (by decide)) <| .piece (letter (by decide)) .close
  have escaped : Literal "n\\u0061me\" \x7d?".toList "name".toList " \x7d?".toList := by
    have quad : HexQuad "0061me\" \x7d?".toList 'a'.toNat "me\" \x7d?".toList :=
      @HexQuad.digits '0' '0' '6' '1' 0 0 6 1 _ (.inl rfl) (.inl rfl) (.inl rfl) (.inl rfl)
    exact .piece (letter (by decide)) <| .piece (.codePoint quad) <|
      .piece (letter (by decide)) <| .piece (letter (by decide)) .close
  have leading : Leading Member "\"name\":\"\",\"n\\u0061me\" \x7d?".toList [.name ""]
      "\"n\\u0061me\" \x7d?".toList :=
    .more (.name (.quoted .none (name _) .none) .none .close) .none .none
  have repeats : Repeats .name "\x7b\"name\":\"\",\"n\\u0061me\" \x7d?".toList " \x7d?".toList :=
    .key .none leading ⟨Nat.le_refl 1, Nat.zero_le 1⟩ ⟨_, List.mem_singleton_self _, rfl⟩ .none
      escaped
  obtain ⟨error, used, left, refused, split, passed, _, position, _⟩ :=
    (load_refuses_repetition _).1 .name _ repeats
  have rest : left = ['?'] := passed.behind_brace (.more (by decide) .none)
  subst rest
  have front : used = "\x7b\"name\":\"\",\"n\\u0061me\" \x7d".toList :=
    List.append_cancel_right split.symm
  rw [front] at position
  exact ⟨error, refused, position⟩

end GraphicsProfile.Document
