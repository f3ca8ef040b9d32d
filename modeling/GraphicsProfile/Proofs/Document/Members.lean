import GraphicsProfile.Document.Grammar.Profile
import GraphicsProfile.Document.Member
import GraphicsProfile.Proofs.Document.Literals

namespace GraphicsProfile.Document

open Grammar

variable {α σ : Type} {member : String → σ → Reader σ} {item : List Char → α → List Char → Prop}
  {accept : σ → α → Option σ} {state next final : σ} {value : α} {values : List α} {key : String}
  {text behind rest : List Char}

theorem openKey_eq_ok_iff :
    openKey text = .ok (key, rest) ↔
      ∃ spelled, text = '"' :: spelled ∧ Literal spelled key.toList rest := by
  refine ⟨fun success => ?_, fun given => ?_⟩
  · simp only [openKey] at success
    split at success
    · exact ⟨_, rfl, literal_eq_ok_iff.mp success⟩
    · cases success
  · obtain ⟨spelled, rfl, form⟩ := given
    exact literal_eq_ok_iff.mpr form

theorem firstKey_eq_none_iff : firstKey text = .ok (none, rest) ↔ Blanks text ('}' :: rest) := by
  refine ⟨fun success => ?_, fun blanks => ?_⟩
  · simp only [firstKey] at success
    split at success
    · cases success
    · rename_i found
      cases success
      exact (skipBlanks_eq_cons_iff.mp found).1
    · obtain ⟨_, _, same⟩ := Reader.map_eq_ok_iff.mp success
      cases same
  · simp only [firstKey, skipBlanks_eq_cons_iff.mpr ⟨blanks, rfl⟩]

theorem firstKey_eq_some_iff :
    firstKey text = .ok (some key, rest) ↔ openKey (skipBlanks text) = .ok (key, rest) := by
  refine ⟨fun success => ?_, fun read => ?_⟩
  · simp only [firstKey] at success
    split at success
    · cases success
    · cases success
    · obtain ⟨_, read, same⟩ := Reader.map_eq_ok_iff.mp success
      cases same
      exact read
  · obtain ⟨spelled, found, form⟩ := openKey_eq_ok_iff.mp read
    rw [found] at read
    simp only [firstKey, found]
    exact Reader.map_eq_ok_iff.mpr ⟨_, read, rfl⟩

theorem nextKey_eq_none_iff : nextKey text = .ok (none, rest) ↔ Blanks text ('}' :: rest) := by
  refine ⟨fun success => ?_, fun blanks => ?_⟩
  · simp only [nextKey] at success
    split at success
    · cases success
    · rename_i found
      cases success
      exact (skipBlanks_eq_cons_iff.mp found).1
    · split at success
      · cases success
      · cases success
      · obtain ⟨_, _, same⟩ := Reader.map_eq_ok_iff.mp success
        cases same
    · cases success
  · simp only [nextKey, skipBlanks_eq_cons_iff.mpr ⟨blanks, rfl⟩]

theorem nextKey_eq_some_iff :
    nextKey text = .ok (some key, rest) ↔
      ∃ later, Blanks text (',' :: later) ∧ openKey (skipBlanks later) = .ok (key, rest) := by
  refine ⟨fun success => ?_, fun given => ?_⟩
  · simp only [nextKey] at success
    split at success
    · cases success
    · cases success
    · rename_i later found
      refine ⟨later, (skipBlanks_eq_cons_iff.mp found).1, ?_⟩
      split at success
      · cases success
      · cases success
      · obtain ⟨_, read, same⟩ := Reader.map_eq_ok_iff.mp success
        cases same
        exact read
    · cases success
  · obtain ⟨later, comma, read⟩ := given
    obtain ⟨spelled, found, form⟩ := openKey_eq_ok_iff.mp read
    rw [found] at read
    simp only [nextKey, skipBlanks_eq_cons_iff.mpr ⟨comma, rfl⟩, found]
    exact Reader.map_eq_ok_iff.mpr ⟨_, read, rfl⟩

/-- A member from its key on. -/
def keyedMember (member : String → σ → Reader σ) (state : σ) : Reader σ := fun text =>
  (openKey >>= fun key => member key state : Reader σ) (skipBlanks text)

theorem memberStep_eq_none_iff :
    memberStep member state text = .ok (none, rest) ↔ Blanks text ('}' :: rest) := by
  constructor
  · intro success
    obtain ⟨key?, behind, found, success⟩ := Reader.bind_eq_ok success
    cases key? with
    | none =>
        cases success
        exact nextKey_eq_none_iff.mp found
    | some key =>
        obtain ⟨_, _, same⟩ := Reader.map_eq_ok_iff.mp success
        cases same
  · exact fun blanks => Reader.bind_eq_ok_iff.mpr ⟨_, _, nextKey_eq_none_iff.mpr blanks, rfl⟩

theorem memberStep_eq_some_iff :
    memberStep member state text = .ok (some next, rest) ↔
      ∃ later, Blanks text (',' :: later) ∧ keyedMember member state later = .ok (next, rest) := by
  refine ⟨fun success => ?_, fun given => ?_⟩
  · obtain ⟨key?, behind, found, success⟩ := Reader.bind_eq_ok success
    cases key? with
    | none => cases success
    | some key =>
        obtain ⟨_, read, same⟩ := Reader.map_eq_ok_iff.mp success
        cases same
        obtain ⟨later, comma, opened⟩ := nextKey_eq_some_iff.mp found
        exact ⟨later, comma, Reader.bind_eq_ok_iff.mpr ⟨_, _, opened, read⟩⟩
  · obtain ⟨later, comma, read⟩ := given
    obtain ⟨key, behind, opened, read⟩ := Reader.bind_eq_ok read
    have found := nextKey_eq_some_iff.mpr ⟨later, comma, opened⟩
    exact Reader.bind_eq_ok_iff.mpr ⟨_, _, found, Reader.map_eq_ok_iff.mpr ⟨_, read, rfl⟩⟩

/-- A member reader reads the items of a grammar, and a state takes in the items that it accepts. -/
structure MemberLaw (member : String → σ → Reader σ) (item : List Char → α → List Char → Prop)
    (accept : σ → α → Option σ) : Prop where
  sound : ∀ {state next : σ} {text rest : List Char},
    keyedMember member state text = .ok (next, rest) →
      ∃ value, item text value rest ∧ accept state value = some next
  complete : ∀ {state next : σ} {text rest : List Char} {value : α}, item text value rest →
    Delimited rest → accept state value = some next →
      keyedMember member state text = .ok (next, rest)

/-- The items behind one that has been read, each with the comma in front of it. -/
inductive Remaining (item : List Char → α → List Char → Prop) :
    List Char → List α → List Char → Prop where
  | close {text rest : List Char} (blanks : Blanks text ('}' :: rest)) : Remaining item text [] rest
  | next {text later behind rest : List Char} {value : α} {values : List α}
      (comma : Blanks text (',' :: later)) (first : item later value behind)
      (others : Remaining item behind values rest) : Remaining item text (value :: values) rest

theorem Remaining.delimited (remaining : Remaining item text values rest) : Delimited text := by
  cases remaining with
  | close blanks => exact blanks.delimited (.inr (.inr rfl))
  | next comma _ _ => exact comma.delimited (.inl rfl)

theorem Grammar.Enclosed.prepend {later : List Char} (first : item text value behind)
    (comma : Blanks behind (',' :: later)) (enclosed : Enclosed item later values rest)
    (nonempty : values ≠ []) : Enclosed item text (value :: values) rest := by
  cases enclosed with
  | empty _ => contradiction
  | items leading final close => exact .items (.more first comma leading) final close

theorem enclosed_of_remaining (first : item text value behind)
    (remaining : Remaining item behind values rest) :
    Enclosed item text (value :: values) rest := by
  induction remaining generalizing text value with
  | close blanks => exact .items .none first blanks
  | next comma second _ ih => exact (ih second).prepend first comma (List.cons_ne_nil _ _)

theorem remaining_of_enclosed (enclosed : Enclosed item text values rest) (nonempty : values ≠ []) :
    ∃ value others behind, values = value :: others ∧ item text value behind ∧
      Remaining item behind others rest := by
  cases enclosed with
  | empty _ => contradiction
  | items leading final close =>
      clear nonempty
      induction leading with
      | none => exact ⟨_, [], _, rfl, final, .close close⟩
      | more first comma _ ih =>
          obtain ⟨second, others, between, whole, form, remaining⟩ := ih final
          exact ⟨_, second :: others, _, congrArg (_ :: ·) whole, first, .next comma form remaining⟩

theorem memberRun_sound (law : MemberLaw member item accept)
    {progress : Reader.Progresses (memberStep member)}
    (success : Reader.run (memberStep member) progress state text = .ok (final, rest)) :
    ∃ values, Remaining item text values rest ∧ values.foldlM accept state = some final := by
  fun_induction Reader.run (memberStep member) progress state text with
  | case1 => contradiction
  | case2 state text behind ended =>
      cases success
      exact ⟨[], .close (memberStep_eq_none_iff.mp ended), rfl⟩
  | case3 state text next middle continued ih =>
      obtain ⟨values, remaining, folded⟩ := ih success
      obtain ⟨later, comma, read⟩ := memberStep_eq_some_iff.mp continued
      obtain ⟨value, form, accepted⟩ := law.sound read
      refine ⟨value :: values, .next comma form remaining, ?_⟩
      rw [List.foldlM_cons, accepted]
      exact folded

theorem memberRun_complete (law : MemberLaw member item accept)
    {progress : Reader.Progresses (memberStep member)} (remaining : Remaining item text values rest)
    (folded : values.foldlM accept state = some final) :
    Reader.run (memberStep member) progress state text = .ok (final, rest) := by
  induction remaining generalizing state with
  | close blanks =>
      cases folded
      exact Reader.run_of_none (memberStep_eq_none_iff.mpr blanks)
  | next comma first others ih =>
      rw [List.foldlM_cons] at folded
      obtain ⟨next, accepted, folded⟩ := Option.bind_eq_some_iff.mp folded
      have read := law.complete first others.delimited accepted
      rw [Reader.run_of_some (memberStep_eq_some_iff.mpr ⟨_, comma, read⟩)]
      exact ih folded

/-- An object is folded if and only if it is a list of items and the states accept them in turn. -/
theorem foldMembers_eq_ok_iff (law : MemberLaw member item accept)
    {keeps : ∀ key state, Reader.Keeps (member key state)} :
    foldMembers member keeps state text = .ok (final, rest) ↔
      ∃ values, Enclosed item text values rest ∧ values.foldlM accept state = some final := by
  refine ⟨fun success => ?_, fun given => ?_⟩
  · obtain ⟨key?, behind, found, success⟩ := Reader.bind_eq_ok success
    cases key? with
    | none =>
        cases success
        exact ⟨[], .empty (firstKey_eq_none_iff.mp found), rfl⟩
    | some key =>
        obtain ⟨first, between, read, run⟩ := Reader.bind_eq_ok success
        have opened := firstKey_eq_some_iff.mp found
        obtain ⟨value, form, accepted⟩ :=
          law.sound (Reader.bind_eq_ok_iff.mpr ⟨_, _, opened, read⟩)
        obtain ⟨values, remaining, folded⟩ := memberRun_sound law run
        refine ⟨value :: values, enclosed_of_remaining form remaining, ?_⟩
        rw [List.foldlM_cons, accepted]
        exact folded
  · obtain ⟨values, enclosed, folded⟩ := given
    by_cases none : values = []
    · subst none
      generalize whole : [] = others at enclosed
      cases enclosed with
      | empty blanks =>
          cases folded
          exact Reader.bind_eq_ok_iff.mpr ⟨_, _, firstKey_eq_none_iff.mpr blanks, rfl⟩
      | items => simp at whole
    · obtain ⟨value, others, behind, rfl, form, remaining⟩ := remaining_of_enclosed enclosed none
      rw [List.foldlM_cons] at folded
      obtain ⟨first, accepted, folded⟩ := Option.bind_eq_some_iff.mp folded
      obtain ⟨key, between, opened, read⟩ :=
        Reader.bind_eq_ok (law.complete form remaining.delimited accepted)
      refine Reader.bind_eq_ok_iff.mpr ⟨_, _, firstKey_eq_some_iff.mpr opened, ?_⟩
      exact Reader.bind_eq_ok_iff.mpr ⟨_, _, read, memberRun_complete law remaining folded⟩

end GraphicsProfile.Document
