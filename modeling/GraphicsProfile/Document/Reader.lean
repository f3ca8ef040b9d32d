import GraphicsProfile.Document.Fault

/-!
Readers take a front part of the text that is left and give a value for it, or they stop at the
first fault. A reader that is run again and again has to use up text in every round, which is what
ends the run.
-/

namespace GraphicsProfile.Document

/-- Takes the text that is left to a value and the text that is left then. -/
abbrev Reader := StateT (List Char) (Except Fault)

namespace Reader

variable {α β σ : Type}

/-- Stops with a cause that is reported in front of the text that is left. -/
def stop (cause : Cause) : Reader α := fun text =>
  .error (cause.before text)

/-- What the reader leaves is the back part of what it was given. -/
def Keeps (reader : Reader α) : Prop :=
  ∀ ⦃text value rest⦄, reader text = .ok (value, rest) → ∃ used, text = used ++ rest

/-- The reader takes at least one character. -/
def Advances (reader : Reader α) : Prop :=
  ∀ ⦃text value rest⦄, reader text = .ok (value, rest) → ∃ char used, text = char :: used ++ rest

theorem except_bind_eq_ok {ε : Type} {first : Except ε α} {next : α → Except ε β} {result : β}
    (success : (first >>= next) = .ok result) : ∃ value, first = .ok value ∧ next value = .ok result := by
  cases first with
  | error fault => simp [bind, Except.bind] at success
  | ok value => exact ⟨value, rfl, success⟩

theorem bind_eq_ok {reader : Reader α} {next : α → Reader β} {text rest : List Char} {result : β}
    (success : (reader >>= next) text = .ok (result, rest)) :
    ∃ value middle, reader text = .ok (value, middle) ∧ next value middle = .ok (result, rest) := by
  obtain ⟨⟨value, middle⟩, read, continued⟩ := except_bind_eq_ok success
  exact ⟨value, middle, read, continued⟩

theorem pure_eq_ok {value result : α} {text rest : List Char}
    (success : (pure value : Reader α) text = .ok (result, rest)) :
    value = result ∧ text = rest := by
  cases success
  exact ⟨rfl, rfl⟩

theorem Advances.keeps {reader : Reader α} (advances : Advances reader) : Keeps reader :=
  fun _ _ _ success =>
    have ⟨char, used, split⟩ := advances success
    ⟨char :: used, split⟩

theorem Advances.shorter {reader : Reader α} (advances : Advances reader) {text rest : List Char}
    {value : α} (success : reader text = .ok (value, rest)) : rest.length < text.length := by
  obtain ⟨char, used, split⟩ := advances success
  rw [split]
  simp only [List.cons_append, List.length_cons, List.length_append]
  omega

theorem Keeps.pure (value : α) : Keeps (pure value : Reader α) :=
  fun _ _ _ success => ⟨[], (pure_eq_ok success).2⟩

theorem stop_advances (cause : Cause) : Advances (stop cause : Reader α) :=
  fun _ _ _ success => nomatch success

theorem Keeps.bind {reader : Reader α} {next : α → Reader β}
    (first : Keeps reader) (second : ∀ value, Keeps (next value)) : Keeps (reader >>= next) := by
  intro text result rest success
  obtain ⟨value, middle, read, continued⟩ := bind_eq_ok success
  obtain ⟨front, split⟩ := first read
  obtain ⟨back, again⟩ := second value continued
  exact ⟨front ++ back, by rw [split, again, List.append_assoc]⟩

theorem Advances.bind {reader : Reader α} {next : α → Reader β}
    (first : Advances reader) (second : ∀ value, Keeps (next value)) :
    Advances (reader >>= next) := by
  intro text result rest success
  obtain ⟨value, middle, read, continued⟩ := bind_eq_ok success
  obtain ⟨char, front, split⟩ := first read
  obtain ⟨back, again⟩ := second value continued
  exact ⟨char, front ++ back, by rw [split, again]; simp⟩

theorem Keeps.bind_advances {reader : Reader α} {next : α → Reader β}
    (first : Keeps reader) (second : ∀ value, Advances (next value)) :
    Advances (reader >>= next) := by
  intro text result rest success
  obtain ⟨value, middle, read, continued⟩ := bind_eq_ok success
  obtain ⟨front, split⟩ := first read
  obtain ⟨char, back, again⟩ := second value continued
  cases front with
  | nil => exact ⟨char, back, by rw [split, again]; simp⟩
  | cons head tail => exact ⟨head, tail ++ char :: back, by rw [split, again]; simp⟩

/-- Every round that goes on has used up text. -/
def Progresses (step : σ → Reader (Option σ)) : Prop :=
  ∀ ⦃state text next rest⦄, step state text = .ok (some next, rest) →
    ∃ char used, text = char :: used ++ rest

theorem Progresses.shorter {step : σ → Reader (Option σ)} (progress : Progresses step)
    {state next : σ} {text rest : List Char} (success : step state text = .ok (some next, rest)) :
    rest.length < text.length := by
  obtain ⟨char, used, split⟩ := progress success
  rw [split]
  simp only [List.cons_append, List.length_cons, List.length_append]
  omega

/-- Runs a step from state to state until it gives none; the last state is the result. -/
def run (step : σ → Reader (Option σ)) (progress : Progresses step) (state : σ)
    (text : List Char) : Except Fault (σ × List Char) :=
  match _ : step state text with
  | .error fault => .error fault
  | .ok (none, rest) => .ok (state, rest)
  | .ok (some next, rest) => run step progress next rest
termination_by text.length
decreasing_by exact progress.shorter ‹_›

theorem run_keeps {step : σ → Reader (Option σ)} (progress : Progresses step)
    (ending : ∀ state, Keeps (step state)) (state : σ) : Keeps (run step progress state) := by
  intro text result rest success
  fun_induction run step progress state text with
  | case1 => cases success
  | case2 state text rest read =>
    cases success
    exact ending _ read
  | case3 state text next middle read ih =>
    obtain ⟨used, split⟩ := ending state read
    obtain ⟨more, again⟩ := ih success
    exact ⟨used ++ more, by rw [split, again, List.append_assoc]⟩

end Reader

end GraphicsProfile.Document
