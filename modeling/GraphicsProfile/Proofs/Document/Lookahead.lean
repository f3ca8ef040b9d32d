import GraphicsProfile.Proofs.Document.Marks

/-! Readers that go through a text from the front and look one character ahead at most.

Two texts agree as far as a reader has looked if they have the same characters up to one of which
only the first byte has been looked at. A reader that is run on either of them then takes the same
value or stops with the same fault, whatever stands behind. What a reader does where its text ends
is a matter of its own: there it may go on with some texts and not with others. -/

namespace GraphicsProfile.Document

open Text

/-- Characters that their first bytes do not tell apart: they are the same, or neither of them is a
character of one byte. -/
def Alike (left right : Char) : Prop :=
  left = right ∨ left.utf8Size = right.utf8Size ∧ 1 < left.utf8Size

/-- Texts with the same characters up to a last one, which is alike in both. So many bytes stand
behind that one in either text. -/
inductive Agree : Nat → Nat → List Char → List Char → Prop where
  | last {left right : Char} {rest other : List Char} (alike : Alike left right) :
      Agree (byteSize rest) (byteSize other) (left :: rest) (right :: other)
  | more {behind behind' : Nat} {char : Char} {text text' : List Char}
      (later : Agree behind behind' text text') :
      Agree behind behind' (char :: text) (char :: text')

variable {α β σ : Type} {text text' more rest : List Char} {char mark left right : Char}
  {behind behind' : Nat}

theorem Alike.symm (alike : Alike left right) : Alike right left := by
  rcases alike with same | ⟨size, wide⟩
  · exact .inl same.symm
  · exact .inr ⟨size.symm, size ▸ wide⟩

theorem Alike.size (alike : Alike left right) : left.utf8Size = right.utf8Size := by
  rcases alike with rfl | ⟨size, _⟩
  · rfl
  · exact size

theorem ne_of_wide (wide : 1 < char.utf8Size) (narrow : mark.utf8Size = 1) : char ≠ mark := by
  rintro rfl
  omega

/-- A character of one byte is alike to itself only. -/
theorem Alike.eq_iff (alike : Alike left right) (narrow : mark.utf8Size = 1) :
    left = mark ↔ right = mark := by
  rcases alike with rfl | ⟨size, wide⟩
  · rfl
  · exact iff_of_false (ne_of_wide wide narrow) (ne_of_wide (size ▸ wide) narrow)

/-- What can only be told of characters of one byte is told alike of alike characters. -/
theorem Alike.congr {γ : Type} {tell : Char → γ} (other : γ) (alike : Alike left right)
    (narrow : ∀ {char}, tell char ≠ other → char.utf8Size = 1) : tell left = tell right := by
  have untold : ∀ {char}, 1 < char.utf8Size → tell char = other := by
    intro char wide
    refine Classical.byContradiction fun told => ?_
    have := narrow told
    omega
  rcases alike with rfl | ⟨size, wide⟩
  · rfl
  · rw [untold wide, untold (size ▸ wide)]

theorem Alike.isBlank (alike : Alike left right) : isBlank left = isBlank right := by
  refine alike.congr false fun blank => ?_
  rw [ne_eq, Bool.not_eq_false, isBlank_iff] at blank
  rcases blank with rfl | rfl | rfl | rfl <;> rfl

theorem byteSize_skipBlanks_le (text : List Char) :
    byteSize (skipBlanks text) ≤ byteSize text := by
  obtain ⟨blanks, split⟩ := skipBlanks_suffix text
  have whole := congrArg byteSize split
  rw [byteSize_append] at whole
  omega

namespace Agree

theorem symm (agree : Agree behind behind' text text') : Agree behind' behind text' text := by
  induction agree with
  | last alike => exact .last alike.symm
  | more _ ih => exact .more ih

theorem size (agree : Agree behind behind' text text') :
    byteSize text + behind' = byteSize text' + behind := by
  induction agree with
  | last alike =>
      have := alike.size
      simp only [byteSize_cons]
      omega
  | more _ ih =>
      simp only [byteSize_cons]
      omega

theorem head (agree : Agree behind behind' (left :: text) (right :: text')) : Alike left right := by
  cases agree with
  | last alike => exact alike
  | more _ => exact .inl rfl

theorem tail (agree : Agree behind behind' (left :: text) (right :: text'))
    (further : behind < byteSize text) : left = right ∧ Agree behind behind' text text' := by
  cases agree with
  | last _ => omega
  | more later => exact ⟨rfl, later⟩

theorem exists_cons (agree : Agree behind behind' (left :: text) text') :
    ∃ right rest, text' = right :: rest := by
  cases agree with
  | last _ => exact ⟨_, _, rfl⟩
  | more _ => exact ⟨_, _, rfl⟩

/-- A front that ends before the last common character is common. -/
theorem drop_front {front : List Char} (agree : Agree behind behind' (front ++ text) text')
    (further : behind < byteSize text) :
    ∃ other, text' = front ++ other ∧ Agree behind behind' text other := by
  induction front generalizing text' with
  | nil => exact ⟨text', rfl, agree⟩
  | cons char front ih =>
      obtain ⟨right, rest, rfl⟩ := agree.exists_cons
      have longer : behind < byteSize (front ++ text) := by
        rw [byteSize_append]
        omega
      obtain ⟨rfl, later⟩ := agree.tail longer
      obtain ⟨other, rfl, found⟩ := ih later
      exact ⟨other, rfl, found⟩

/-- A text agrees with its extensions up to its last character. -/
theorem append (nonempty : text ≠ []) (more : List Char) :
    Agree 0 (byteSize more) text (text ++ more) := by
  induction text with
  | nil => exact absurd rfl nonempty
  | cons char text ih =>
      by_cases last : text = []
      · subst last
        exact (.last (.inl rfl) : Agree (byteSize []) (byteSize more) [char] (char :: more))
      · exact .more (ih last)

theorem skipBlanks (agree : Agree behind behind' text text')
    (further : behind < byteSize (Document.skipBlanks text)) :
    Agree behind behind' (Document.skipBlanks text) (Document.skipBlanks text') := by
  induction agree with
  | @last left right rest other alike =>
      cases blank : isBlank left with
      | true =>
          have shorter := byteSize_skipBlanks_le rest
          rw [skipBlanks_of_blank blank] at further
          omega
      | false =>
          have visible : isBlank right = false := alike.isBlank ▸ blank
          rw [skipBlanks_of_visible blank, skipBlanks_of_visible visible]
          exact .last alike
  | @more _ _ char text text' later ih =>
      cases blank : isBlank char with
      | true =>
          rw [skipBlanks_of_blank blank] at further ⊢
          rw [skipBlanks_of_blank blank]
          exact ih further
      | false =>
          rw [skipBlanks_of_visible blank, skipBlanks_of_visible blank]
          exact .more later

end Agree

/-- Blanks in front are skipped in the same way before whatever else is appended. -/
theorem skipBlanks_append (found : skipBlanks text ≠ []) (more : List Char) :
    skipBlanks (text ++ more) = skipBlanks text ++ more := by
  induction text with
  | nil => exact absurd rfl found
  | cons char text ih =>
      cases blank : isBlank char with
      | true =>
          rw [skipBlanks_of_blank blank] at found ⊢
          rw [List.cons_append, skipBlanks_of_blank blank]
          exact ih found
      | false => rw [List.cons_append, skipBlanks_of_visible blank, skipBlanks_of_visible blank,
          List.cons_append]

namespace Reader

variable {follows : List Char → Prop} {reader : Reader α}

theorem run_of_error {step : σ → Reader (Option σ)} {progress : Progresses step} {state : σ}
    {fault : Fault} (stopped : step state text = .error fault) :
    run step progress state text = .error fault := by
  rw [run]
  split <;> simp_all

theorem except_bind_eq_error_iff {ε : Type} {first : Except ε α} {next : α → Except ε β}
    {fault : ε} : (first >>= next) = .error fault ↔
      first = .error fault ∨ ∃ value, first = .ok value ∧ next value = .error fault := by
  cases first with
  | error other => simp [bind, Except.bind]
  | ok value => simp [bind, Except.bind]

theorem bind_eq_error_iff {next : α → Reader β} {fault : Fault} :
    (reader >>= next) text = .error fault ↔
      reader text = .error fault ∨
        ∃ value middle, reader text = .ok (value, middle) ∧ next value middle = .error fault := by
  refine except_bind_eq_error_iff.trans (or_congr Iff.rfl ⟨fun given => ?_, fun given => ?_⟩)
  · obtain ⟨⟨value, middle⟩, read, stopped⟩ := given
    exact ⟨value, middle, read, stopped⟩
  · obtain ⟨value, middle, read, stopped⟩ := given
    exact ⟨(value, middle), read, stopped⟩

theorem bind_eq_of_ok {next : α → Reader β} {value : α} (read : reader text = .ok (value, rest)) :
    (reader >>= next) text = next value rest := by
  change (reader text >>= fun result => next result.1 result.2) = _
  rw [read]
  rfl

theorem bind_eq_of_error {next : α → Reader β} {fault : Fault}
    (stopped : reader text = .error fault) : (reader >>= next) text = .error fault :=
  bind_eq_error_iff.mpr (.inl stopped)

theorem bind_eq_of_eq {other : Reader α} {next : α → Reader β} (same : reader text = other text') :
    (reader >>= next) text = (other >>= next) text' := by
  change (reader text >>= fun result => next result.1 result.2) =
    (other text' >>= fun result => next result.1 result.2)
  rw [same]

/-- A run is its first round and then the run behind that. -/
theorem run_eq_bind {step : σ → Reader (Option σ)} {progress : Progresses step} {state : σ} :
    run step progress state = step state >>= fun
      | none => pure state
      | some next => run step progress next := by
  funext text
  cases read : step state text with
  | error fault => rw [run_of_error read, bind_eq_of_error read]
  | ok result =>
      obtain ⟨next?, rest⟩ := result
      rw [bind_eq_of_ok read]
      cases next? with
      | none => exact run_of_none read
      | some next => exact run_of_some read

theorem error_eq {cause : Cause} {left right : Nat} (same : left = right) :
    (.error ⟨cause, left⟩ : Except Fault α) = .error ⟨cause, right⟩ :=
  congrArg (fun left => Except.error (Fault.mk cause left)) same

theorem Keeps.byteSize_le (keeps : Keeps reader) {value : α}
    (success : reader text = .ok (value, rest)) : byteSize rest ≤ byteSize text := by
  obtain ⟨used, split⟩ := keeps success
  rw [split, byteSize_append]
  omega

/-- The reader goes through its text from the front. No fault is placed outside the text, and one
for want of text stands at its end. Texts that agree up to a character behind which the reader has
taken nothing are read alike. Where the text ends, appending what may follow there does not change
the outcome either, unless the reader has stopped for want of text. -/
structure Sequential (follows : List Char → Prop) (reader : Reader α) : Prop where
  keeps : Keeps reader
  bounded : ∀ {text fault}, reader text = .error fault → fault.left ≤ byteSize text
  ended : ∀ {text fault}, reader text = .error fault → fault.cause.category = .truncated →
    fault.left = 0
  value : ∀ {behind behind' text text' value rest}, Agree behind behind' text text' →
    reader text = .ok (value, rest) → behind < byteSize rest →
      ∃ rest', reader text' = .ok (value, rest') ∧ Agree behind behind' rest rest'
  fault : ∀ {behind behind' text text' cause extra}, Agree behind behind' text text' →
    reader text = .error ⟨cause, extra + behind⟩ → 0 < extra →
      reader text' = .error ⟨cause, extra + behind'⟩
  appendValue : ∀ {text value rest more}, reader text = .ok (value, rest) → follows more →
    reader (text ++ more) = .ok (value, rest ++ more)
  appendFault : ∀ {text fault more}, reader text = .error fault →
    fault.cause.category ≠ .truncated → follows more →
      reader (text ++ more) = .error ⟨fault.cause, fault.left + byteSize more⟩

/-- Holds of no text: nothing may follow, or nothing is exempt. -/
def Never (_ : List Char) : Prop := False

/-- On the empty text the reader stops for want of text. -/
def Wanting (reader : Reader α) : Prop :=
  ∃ cause, reader [] = .error ⟨cause, 0⟩ ∧ cause.category = .truncated

/-- The next character. -/
def next : Reader Char
  | [] => .error (Cause.endOfValue.before [])
  | char :: rest => .ok (char, rest)

/-- The reader from behind the next character. -/
def behindNext (reader : Reader α) : Reader α := do
  let _ ← next
  reader

/-- Stops behind the first byte of the next character. -/
def refuse (cause : Cause) : Reader α
  | [] => .error (Cause.endOfValue.before [])
  | char :: rest => .error (cause.behindByte (char :: rest))

@[simp]
theorem pure_text (value : α) : (pure value : Reader α) text = .ok (value, text) := rfl

@[simp]
theorem stop_text (cause : Cause) : (stop cause : Reader α) text = .error (cause.before text) := rfl

@[simp]
theorem ite_text {condition : Prop} [Decidable condition] {first second : Reader α} :
    (if condition then first else second) text = if condition then first text else second text := by
  split <;> rfl

@[simp]
theorem map_text {change : α → β} :
    (change <$> reader) text = (fun result => (change result.1, result.2)) <$> reader text := by
  change (reader text >>= fun result => Except.ok (change result.1, result.2)) = _
  cases reader text <;> rfl

@[simp]
theorem except_map_ok {change : α → β} {value : α} :
    change <$> (.ok value : Except Fault α) = .ok (change value) := rfl

@[simp]
theorem except_map_error {change : α → β} {fault : Fault} :
    change <$> (.error fault : Except Fault α) = .error fault := rfl

@[simp]
theorem next_cons : next (char :: rest) = .ok (char, rest) := rfl

@[simp]
theorem behindNext_cons : behindNext reader (char :: rest) = reader rest := rfl

@[simp]
theorem refuse_cons {cause : Cause} :
    (refuse cause : Reader α) (char :: rest) = .error (cause.behindByte (char :: rest)) := rfl

namespace Sequential

theorem weaken {fewer : List Char → Prop} (sequential : Sequential follows reader)
    (included : ∀ {more}, fewer more → follows more) : Sequential fewer reader where
  keeps := sequential.keeps
  bounded := sequential.bounded
  ended := sequential.ended
  value := sequential.value
  fault := sequential.fault
  appendValue success allowed := sequential.appendValue success (included allowed)
  appendFault stopped category allowed :=
    sequential.appendFault stopped category (included allowed)

theorem pure (value : α) : Sequential follows (pure value : Reader α) where
  keeps := Keeps.pure value
  bounded stopped := nomatch stopped
  ended stopped := nomatch stopped
  value agree success _ := by
    obtain ⟨rfl, rfl⟩ := pure_eq_ok success
    exact ⟨_, rfl, agree⟩
  fault _ stopped := nomatch stopped
  appendValue success _ := by
    obtain ⟨rfl, rfl⟩ := pure_eq_ok success
    rfl
  appendFault stopped := nomatch stopped

theorem stop {cause : Cause} (given : cause.category ≠ .truncated) :
    Sequential follows (stop cause : Reader α) where
  keeps := (stop_advances cause).keeps
  bounded stopped := by
    cases stopped
    exact Nat.le_refl _
  ended stopped truncated := by
    cases stopped
    exact absurd truncated given
  value _ success := nomatch success
  fault agree stopped _ := by
    obtain ⟨rfl, place⟩ := Fault.mk.inj (Except.error.inj stopped)
    have size := agree.size
    exact error_eq (by omega)
  appendValue success := nomatch success
  appendFault stopped _ _ := by
    cases stopped
    exact error_eq (byteSize_append _ _)

theorem next : Sequential follows next where
  keeps text _ rest success := by
    cases text with
    | nil => cases success
    | cons char text =>
        cases success
        exact ⟨[_], rfl⟩
  bounded {text _} stopped := by
    cases text with
    | nil =>
        cases stopped
        exact Nat.le_refl _
    | cons => cases stopped
  ended {text _} stopped _ := by
    cases text with
    | nil =>
        cases stopped
        rfl
    | cons => cases stopped
  value agree success further := by
    cases agree with
    | last _ =>
        cases success
        omega
    | more later =>
        cases success
        exact ⟨_, rfl, later⟩
  fault agree stopped _ := by
    cases agree <;> cases stopped
  appendValue {text _ _ _} success _ := by
    cases text with
    | nil => cases success
    | cons =>
        cases success
        rfl
  appendFault {text _ _} stopped category _ := by
    cases text with
    | nil =>
        cases stopped
        contradiction
    | cons => cases stopped

theorem refuse {cause : Cause} (given : cause.category ≠ .truncated) :
    Sequential follows (refuse cause : Reader α) where
  keeps text _ _ success := by
    cases text <;> cases success
  bounded {text _} stopped := by
    cases text <;> cases stopped
    · exact Nat.le_refl _
    · exact Nat.sub_le _ _
  ended {text _} stopped truncated := by
    cases text <;> cases stopped
    · rfl
    · exact absurd truncated given
  value {_ _ text _ _ _} _ success := by
    cases text <;> cases success
  fault {_ _ text _ _ _} agree stopped extra := by
    cases text with
    | nil => cases agree
    | cons char text =>
        obtain ⟨right, rest, rfl⟩ := agree.exists_cons
        obtain ⟨rfl, place⟩ := Fault.mk.inj (Except.error.inj stopped)
        have size := agree.size
        exact error_eq (by omega)
  appendValue {text _ _ _} success := by
    cases text <;> cases success
  appendFault {text _ more} stopped category _ := by
    cases text with
    | nil =>
        cases stopped
        contradiction
    | cons char text =>
        cases stopped
        have positive := char.utf8Size_pos
        have whole := byteSize_append (char :: text) more
        have size := byteSize_cons char text
        have place : byteSize (char :: text ++ more) - 1 =
            byteSize (char :: text) - 1 + byteSize more := by omega
        exact error_eq place

theorem bind {next : α → Reader β} (first : Sequential follows reader)
    (second : ∀ value, Sequential follows (next value)) : Sequential follows (reader >>= next) where
  keeps := first.keeps.bind fun value => (second value).keeps
  bounded stopped := by
    rcases bind_eq_error_iff.mp stopped with stopped | ⟨value, middle, read, stopped⟩
    · exact first.bounded stopped
    · exact Nat.le_trans ((second value).bounded stopped) (first.keeps.byteSize_le read)
  ended stopped truncated := by
    rcases bind_eq_error_iff.mp stopped with stopped | ⟨value, middle, read, stopped⟩
    · exact first.ended stopped truncated
    · exact (second value).ended stopped truncated
  value agree success further := by
    obtain ⟨value, middle, read, continued⟩ := bind_eq_ok success
    have shorter := (second value).keeps.byteSize_le continued
    obtain ⟨middle', read', agree⟩ := first.value agree read (by omega)
    obtain ⟨rest', continued', agree⟩ := (second value).value agree continued further
    exact ⟨rest', bind_eq_ok_iff.mpr ⟨_, _, read', continued'⟩, agree⟩
  fault agree stopped extra := by
    rcases bind_eq_error_iff.mp stopped with stopped | ⟨value, middle, read, stopped⟩
    · exact bind_eq_of_error (first.fault agree stopped extra)
    · have within : _ + _ ≤ byteSize middle := (second value).bounded stopped
      obtain ⟨middle', read', agree⟩ := first.value agree read (by omega)
      rw [bind_eq_of_ok read']
      exact (second value).fault agree stopped extra
  appendValue success allowed := by
    obtain ⟨value, middle, read, continued⟩ := bind_eq_ok success
    rw [bind_eq_of_ok (first.appendValue read allowed)]
    exact (second value).appendValue continued allowed
  appendFault stopped category allowed := by
    rcases bind_eq_error_iff.mp stopped with stopped | ⟨value, middle, read, stopped⟩
    · exact bind_eq_of_error (first.appendFault stopped category allowed)
    · rw [bind_eq_of_ok (first.appendValue read allowed)]
      exact (second value).appendFault stopped category allowed

theorem behindNext (sequential : Sequential follows reader) :
    Sequential follows (behindNext reader) :=
  next.bind fun _ => sequential

theorem map {change : α → β} (sequential : Sequential follows reader) :
    Sequential follows (change <$> reader) := by
  rw [map_eq_pure_bind]
  exact sequential.bind fun value => pure (change value)

variable {step : σ → Reader (Option σ)} {progress : Progresses step} {state final : σ}
  {fault : Fault}

theorem ite {condition : Prop} [Decidable condition] {first second : Reader α}
    (one : Sequential follows first) (other : Sequential follows second) :
    Sequential follows (if condition then first else second) := by
  split
  · exact one
  · exact other

theorem run_bounded (each : ∀ state, Sequential follows (step state))
    (stopped : run step progress state text = .error fault) :
    fault.left ≤ byteSize text ∧ (fault.cause.category = .truncated → fault.left = 0) := by
  fun_induction Reader.run step progress state text with
  | case1 state text other failed =>
      cases stopped
      exact ⟨(each state).bounded failed, (each state).ended failed⟩
  | case2 => cases stopped
  | case3 state text next middle continued ih =>
      obtain ⟨bounded, ended⟩ := ih stopped
      exact ⟨Nat.le_trans bounded ((each state).keeps.byteSize_le continued), ended⟩

theorem run_value (each : ∀ state, Sequential follows (step state))
    (agree : Agree behind behind' text text')
    (success : run step progress state text = .ok (final, rest))
    (further : behind < byteSize rest) :
    ∃ rest', run step progress state text' = .ok (final, rest') ∧
      Agree behind behind' rest rest' := by
  fun_induction Reader.run step progress state text generalizing text' with
  | case1 => cases success
  | case2 state text left ended =>
      cases success
      obtain ⟨rest', ended, agree⟩ := (each _).value agree ended further
      exact ⟨rest', run_of_none ended, agree⟩
  | case3 state text next middle continued ih =>
      have keeps := run_keeps progress (fun state => (each state).keeps) next
      have shorter := keeps.byteSize_le success
      obtain ⟨middle', continued, agree⟩ := (each state).value agree continued (by omega)
      rw [run_of_some continued]
      exact ih agree success

theorem run_fault (each : ∀ state, Sequential follows (step state))
    (agree : Agree behind behind' text text') {cause : Cause} {extra : Nat}
    (stopped : run step progress state text = .error ⟨cause, extra + behind⟩)
    (positive : 0 < extra) :
    run step progress state text' = .error ⟨cause, extra + behind'⟩ := by
  fun_induction Reader.run step progress state text generalizing text' with
  | case1 state text other failed =>
      cases stopped
      exact run_of_error ((each state).fault agree failed positive)
  | case2 => cases stopped
  | case3 state text next middle continued ih =>
      have within : extra + behind ≤ byteSize middle := (run_bounded each stopped).1
      obtain ⟨middle', continued, agree⟩ := (each state).value agree continued (by omega)
      rw [run_of_some continued]
      exact ih agree stopped

theorem run_appendValue (each : ∀ state, Sequential follows (step state))
    (success : run step progress state text = .ok (final, rest)) (allowed : follows more) :
    run step progress state (text ++ more) = .ok (final, rest ++ more) := by
  fun_induction Reader.run step progress state text with
  | case1 => cases success
  | case2 state text left ended =>
      cases success
      exact run_of_none ((each _).appendValue ended allowed)
  | case3 state text next middle continued ih =>
      rw [run_of_some ((each state).appendValue continued allowed)]
      exact ih success

theorem run_appendFault (each : ∀ state, Sequential follows (step state))
    (stopped : run step progress state text = .error fault)
    (category : fault.cause.category ≠ .truncated) (allowed : follows more) :
    run step progress state (text ++ more) = .error ⟨fault.cause, fault.left + byteSize more⟩ := by
  fun_induction Reader.run step progress state text with
  | case1 state text other failed =>
      cases stopped
      exact run_of_error ((each state).appendFault failed category allowed)
  | case2 => cases stopped
  | case3 state text next middle continued ih =>
      rw [run_of_some ((each state).appendValue continued allowed)]
      exact ih stopped

theorem run (each : ∀ state, Sequential follows (step state)) (state : σ) :
    Sequential follows (run step progress state) where
  keeps := run_keeps progress (fun state => (each state).keeps) state
  bounded stopped := (run_bounded each stopped).1
  ended stopped := (run_bounded each stopped).2
  value := run_value each
  fault agree stopped := run_fault each agree stopped
  appendValue := run_appendValue each
  appendFault := run_appendFault each

/-- Blanks in front are passed over. The reader behind them has to want text where nothing is left,
since further blanks may be appended. -/
theorem behindBlanks (reader : Reader α) (sequential : Sequential follows reader)
    (wanting : ∀ {more}, follows more → Wanting reader) :
    Sequential follows (fun text => reader (skipBlanks text)) where
  keeps text value rest success := by
    obtain ⟨blanks, whole⟩ := skipBlanks_suffix text
    obtain ⟨used, split⟩ := sequential.keeps success
    exact ⟨blanks ++ used, by rw [List.append_assoc, ← split, ← whole]⟩
  bounded stopped := Nat.le_trans (sequential.bounded stopped) (byteSize_skipBlanks_le _)
  ended stopped := sequential.ended stopped
  value agree success further := by
    have shorter := sequential.keeps.byteSize_le success
    exact sequential.value (agree.skipBlanks (by omega)) success further
  fault agree stopped positive := by
    have within := sequential.bounded stopped
    dsimp only at within
    exact sequential.fault (agree.skipBlanks (by omega)) stopped positive
  appendValue {text _ _ more} success allowed := by
    by_cases found : skipBlanks text = []
    · obtain ⟨cause, stopped, _⟩ := wanting allowed
      rw [found, stopped] at success
      cases success
    · rw [skipBlanks_append found]
      exact sequential.appendValue success allowed
  appendFault {text _ more} stopped category allowed := by
    by_cases found : skipBlanks text = []
    · obtain ⟨cause, wants, truncated⟩ := wanting allowed
      rw [found, wants] at stopped
      cases stopped
      exact absurd truncated category
    · rw [skipBlanks_append found]
      exact sequential.appendFault stopped category allowed

/-- What the reader does on the empty text stays what it does in front of what may follow. -/
def AtEnd (follows : List Char → Prop) (reader : Reader α) : Prop :=
  match reader [] with
  | .ok (value, rest) => rest = [] ∧ ∀ {more}, follows more → reader more = .ok (value, more)
  | .error fault => fault.left = 0 ∧ ∀ {more}, follows more → fault.cause.category = .truncated

/-- The next character chooses what is read, as far as its first byte tells it. -/
theorem glance (choose : Char → Reader α)
    (chosen : ∀ char rest, reader (char :: rest) = choose char (char :: rest))
    (alike : ∀ {left right}, Alike left right → choose left = choose right)
    (each : ∀ char, Sequential follows (choose char)) (atEnd : AtEnd follows reader) :
    Sequential follows reader where
  keeps text value rest success := by
    cases text with
    | nil =>
        simp only [AtEnd, success] at atEnd
        exact ⟨[], atEnd.1.symm⟩
    | cons char text =>
        rw [chosen] at success
        exact (each char).keeps success
  bounded {text fault} stopped := by
    cases text with
    | nil =>
        simp only [AtEnd, stopped] at atEnd
        exact Nat.le_of_eq atEnd.1
    | cons char text =>
        rw [chosen] at stopped
        exact (each char).bounded stopped
  ended {text fault} stopped truncated := by
    cases text with
    | nil =>
        simp only [AtEnd, stopped] at atEnd
        exact atEnd.1
    | cons char text =>
        rw [chosen] at stopped
        exact (each char).ended stopped truncated
  value {_ _ text _ _ _} agree success further := by
    cases text with
    | nil => cases agree
    | cons left text =>
        obtain ⟨right, other, rfl⟩ := agree.exists_cons
        rw [chosen] at success ⊢
        rw [← alike agree.head]
        exact (each left).value agree success further
  fault {_ _ text _ _ _} agree stopped positive := by
    cases text with
    | nil => cases agree
    | cons left text =>
        obtain ⟨right, other, rfl⟩ := agree.exists_cons
        rw [chosen] at stopped ⊢
        rw [← alike agree.head]
        exact (each left).fault agree stopped positive
  appendValue {text _ _ _} success allowed := by
    cases text with
    | nil =>
        simp only [AtEnd, success] at atEnd
        rw [atEnd.1]
        exact atEnd.2 allowed
    | cons char text =>
        rw [List.cons_append, chosen]
        rw [chosen] at success
        exact (each char).appendValue success allowed
  appendFault {text _ _} stopped category allowed := by
    cases text with
    | nil =>
        simp only [AtEnd, stopped] at atEnd
        exact absurd (atEnd.2 allowed) category
    | cons char text =>
        rw [List.cons_append, chosen]
        rw [chosen] at stopped
        exact (each char).appendFault stopped category allowed

/-- The reader that the next character chooses. Where there is none, the outcome is given. -/
def choosing (ended : Except Fault (α × List Char)) (choose : Char → Reader α) : Reader α
  | [] => ended
  | char :: rest => choose char (char :: rest)

/-- The outcome where nothing but blanks is left stays what it is in front of what may follow. -/
def Ending (follows : List Char → Prop) : Except Fault (α × List Char) → Prop
  | .ok (_, rest) => rest = [] ∧ ∀ {more}, ¬ follows more
  | .error fault => fault.left = 0 ∧ ∀ {more}, follows more → fault.cause.category = .truncated

/-- The first character behind the blanks chooses what is read. -/
theorem peek (ended : Except Fault (α × List Char)) (choose : Char → Reader α)
    (empty : ∀ {text}, skipBlanks text = [] → reader text = ended)
    (chosen : ∀ {text char rest}, skipBlanks text = char :: rest →
      reader text = choose char (char :: rest))
    (alike : ∀ {left right}, Alike left right → choose left = choose right)
    (each : ∀ char, Sequential follows (choose char)) (ending : Ending follows ended) :
    Sequential follows reader := by
  have same : reader = fun text => choosing ended choose (skipBlanks text) := by
    funext text
    cases found : skipBlanks text with
    | nil => exact empty found
    | cons char rest => exact chosen found
  rw [same]
  cases ended with
  | ok result =>
      have none : ∀ {more}, ¬ follows more := ending.2
      have inner : Sequential follows (choosing (.ok result) choose) :=
        .glance choose (fun _ _ => rfl) alike each ⟨ending.1, fun allowed => absurd allowed none⟩
      exact .behindBlanks _ inner fun allowed => absurd allowed none
  | error fault =>
      have inner : Sequential follows (choosing (.error fault) choose) :=
        .glance choose (fun _ _ => rfl) alike each ending
      obtain ⟨atEnd, truncated⟩ := ending
      refine .behindBlanks _ inner fun allowed => ⟨fault.cause, ?_, truncated allowed⟩
      exact congrArg Except.error (congrArg (Fault.mk fault.cause) atEnd)

end Sequential

end Reader

end GraphicsProfile.Document
