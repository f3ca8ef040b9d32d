import GraphicsProfile.Document.Reader

namespace GraphicsProfile.Document.Reader

variable {α β σ : Type} {text rest : List Char}

theorem except_bind_eq_ok_iff {ε : Type} {first : Except ε α} {next : α → Except ε β} {result : β} :
    (first >>= next) = .ok result ↔ ∃ value, first = .ok value ∧ next value = .ok result := by
  constructor
  · exact except_bind_eq_ok
  · intro given
    obtain ⟨value, read, continued⟩ := given
    rw [read]
    exact continued

theorem bind_eq_ok_iff {reader : Reader α} {next : α → Reader β} {result : β} :
    (reader >>= next) text = .ok (result, rest) ↔
      ∃ value middle, reader text = .ok (value, middle) ∧
        next value middle = .ok (result, rest) := by
  constructor
  · exact bind_eq_ok
  · intro given
    obtain ⟨value, middle, read, continued⟩ := given
    exact except_bind_eq_ok_iff.mpr ⟨(value, middle), read, continued⟩

theorem pure_eq_ok_iff {value result : α} :
    (pure value : Reader α) text = .ok (result, rest) ↔ value = result ∧ text = rest := by
  constructor
  · exact pure_eq_ok
  · intro given
    obtain ⟨rfl, rfl⟩ := given
    rfl

theorem map_eq_ok_iff {reader : Reader α} {change : α → β} {result : β} :
    (change <$> reader) text = .ok (result, rest) ↔
      ∃ value, reader text = .ok (value, rest) ∧ change value = result := by
  rw [map_eq_pure_bind, bind_eq_ok_iff]
  refine ⟨fun given => ?_, fun given => ?_⟩
  · obtain ⟨value, middle, read, returned⟩ := given
    obtain ⟨same, rfl⟩ := pure_eq_ok returned
    exact ⟨value, read, same⟩
  · obtain ⟨value, read, same⟩ := given
    exact ⟨value, rest, read, pure_eq_ok_iff.mpr ⟨same, rfl⟩⟩

variable {step : σ → Reader (Option σ)} {progress : Progresses step} {state next : σ}
  {middle : List Char}

theorem run_of_none (ended : step state text = .ok (none, rest)) :
    run step progress state text = .ok (state, rest) := by
  rw [run]
  split <;> simp_all

theorem run_of_some (continued : step state text = .ok (some next, middle)) :
    run step progress state text = run step progress next middle := by
  rw [run]
  split <;> simp_all

/-- The rounds of a run: how many of them go on to a further one, and the outcome of the last. -/
inductive Rounds (step : σ → Reader (Option σ)) :
    Nat → σ → List Char → Except Fault (σ × List Char) → Prop where
  | stopped {state : σ} {text : List Char} {fault : Fault}
      (refused : step state text = .error fault) : Rounds step 0 state text (.error fault)
  | ended {state : σ} {text rest : List Char} (last : step state text = .ok (none, rest)) :
      Rounds step 0 state text (.ok (state, rest))
  | further {count : Nat} {state next : σ} {text middle : List Char}
      {outcome : Except Fault (σ × List Char)}
      (continued : step state text = .ok (some next, middle))
      (later : Rounds step count next middle outcome) : Rounds step (count + 1) state text outcome

/-- A run ends, after no more rounds than there are characters. -/
theorem exists_rounds (progress : Progresses step) (state : σ) (text : List Char) :
    ∃ count ≤ text.length, Rounds step count state text (run step progress state text) := by
  fun_induction run step progress state text with
  | case1 state text fault refused => exact ⟨0, Nat.zero_le _, .stopped refused⟩
  | case2 state text rest last => exact ⟨0, Nat.zero_le _, .ended last⟩
  | case3 state text next middle continued ih =>
      obtain ⟨count, bounded, later⟩ := ih
      have shorter := progress.shorter continued
      exact ⟨count + 1, by omega, .further continued later⟩

end GraphicsProfile.Document.Reader
