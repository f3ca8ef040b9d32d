import GraphicsProfile.Proofs.Document.Lookahead

/-! What readers do where their text has been cut off.

A reader that stops for another reason than want of text does so for good: no text that goes on
from there is read. Where a reader has ended at a closing mark, it has looked no further, so it ends
there whatever follows the mark. -/

namespace GraphicsProfile.Document

open Grammar Text

variable {α β σ : Type} {front back text rest other : List Char} {mark : Char}

theorem eq_of_append_eq {front' rest' : List Char} (split : front ++ rest = front' ++ rest')
    (size : byteSize rest = byteSize rest') : front = front' ∧ rest = rest' := by
  have empty : ∀ {between last : List Char}, byteSize (between ++ last) = byteSize last →
      between = [] := by
    intro between last same
    cases between with
    | nil => rfl
    | cons char between =>
        have := char.utf8Size_pos
        rw [byteSize_append, byteSize_cons] at same
        omega
  rcases List.append_eq_append_iff.mp split with ⟨between, rfl, rfl⟩ | ⟨between, rfl, rfl⟩
  · rw [empty size]
    simp
  · rw [empty size.symm]
    simp

theorem Grammar.Blanks.exists_front (blanks : Blanks text rest) :
    ∃ front, text = front ++ rest ∧ ∀ other, Blanks (front ++ other) other := by
  induction blanks with
  | none => exact ⟨[], rfl, fun _ => .none⟩
  | @more char _ _ blank _ ih =>
      obtain ⟨front, rfl, framed⟩ := ih
      exact ⟨char :: front, rfl, fun other => .more blank (framed other)⟩

theorem Grammar.Blanks.append (blanks : Blanks text rest) (more : List Char) :
    Blanks (text ++ more) (rest ++ more) := by
  obtain ⟨front, rfl, framed⟩ := blanks.exists_front
  rw [List.append_assoc]
  exact framed _

theorem Grammar.Blanks.mark_unique {mark mark' : Char} {rest' : List Char}
    (blanks : Blanks text (mark :: rest)) (blanks' : Blanks text (mark' :: rest'))
    (visible : isBlank mark = false) (visible' : isBlank mark' = false) :
    mark :: rest = mark' :: rest' :=
  (skipBlanks_eq_cons_iff.mpr ⟨blanks, visible⟩).symm.trans
    (skipBlanks_eq_cons_iff.mpr ⟨blanks', visible'⟩)

namespace Agree

/-- Texts agree up to a mark, whatever stands behind it. -/
theorem behindMark (front : List Char) (mark : Char) (rest other : List Char) :
    Agree (byteSize rest) (byteSize other) (front ++ mark :: rest) (front ++ mark :: other) := by
  induction front with
  | nil => exact .last (.inl rfl)
  | cons char front ih => exact .more ih

end Agree

namespace Reader

variable {follows exempt : List Char → Prop} {reader : Reader α} {value : α}

/-- A reader that stops in front of a mark does so whatever stands behind the mark. -/
theorem Sequential.frame (sequential : Sequential follows reader)
    (success : reader (front ++ mark :: rest) = .ok (value, back ++ mark :: rest)) :
    reader (front ++ mark :: other) = .ok (value, back ++ mark :: other) := by
  have further : byteSize rest < byteSize (back ++ mark :: rest) := by
    have := mark.utf8Size_pos
    rw [byteSize_append, byteSize_cons]
    omega
  obtain ⟨rest', success', agree⟩ :=
    sequential.value (.behindMark front mark rest other) success further
  obtain ⟨used, split⟩ := sequential.keeps success
  obtain ⟨used', split'⟩ := sequential.keeps success'
  rw [← List.append_assoc] at split
  obtain ⟨rfl, _⟩ := eq_of_append_eq split rfl
  have size := agree.size
  rw [List.append_assoc] at split'
  have same := eq_of_append_eq split' (by
    simp only [byteSize_append, byteSize_cons] at size ⊢
    omega)
  rw [success', same.2]

/-- A reader that stops before the end of a text does so in every longer one. -/
theorem Sequential.extend (sequential : Sequential follows reader)
    (success : reader text = .ok (value, rest)) (left : rest ≠ []) (more : List Char) :
    reader (text ++ more) = .ok (value, rest ++ more) := by
  obtain ⟨back, mark, rfl⟩ : ∃ back mark, rest = back ++ [mark] :=
    ⟨_, _, (List.dropLast_concat_getLast left).symm⟩
  obtain ⟨used, rfl⟩ := sequential.keeps success
  have short : reader ((used ++ back) ++ [mark]) = .ok (value, back ++ [mark]) := by
    rwa [List.append_assoc]
  have framed : reader ((used ++ back) ++ mark :: more) = .ok (value, back ++ mark :: more) :=
    sequential.frame short
  simpa using framed

/-- The reader stands by its refusals. If it stops for another reason than want of text, then no
text that goes on from there is read. Exempt are texts that may yet be continued to what can be
read. -/
structure Firm (follows exempt : List Char → Prop) (reader : Reader α) : Prop
    extends Sequential follows reader where
  refused : ∀ {text fault}, reader text = .error fault → fault.cause.category ≠ .truncated →
    exempt text ∨ ∀ more result, reader (text ++ more) ≠ .ok result

/-- The reader stands by its refusals, and the empty text is not refused. -/
structure Orderly (follows exempt : List Char → Prop) (reader : Reader α) : Prop
    extends Firm follows exempt reader where
  patient : ∀ {fault}, reader [] = .error fault → fault.cause.category ≠ .truncated → exempt []

theorem Wanting.patient (wanting : Wanting reader) {fault : Fault}
    (stopped : reader [] = .error fault) : fault.cause.category = .truncated := by
  obtain ⟨cause, wants, truncated⟩ := wanting
  rw [wants] at stopped
  cases stopped
  exact truncated

/-- A reader whose outcome is the same in front of anything stands by its refusals. -/
theorem Sequential.orderly (sequential : Sequential (fun _ => True) reader)
    (patient : ∀ {fault}, reader [] = .error fault → fault.cause.category = .truncated) :
    Orderly follows exempt reader where
  toSequential := sequential.weaken fun _ => trivial
  patient stopped category := absurd (patient stopped) category
  refused stopped category := .inr fun more result success => by
    rw [sequential.appendFault stopped category trivial] at success
    cases success

/-- A reader that reads nothing at all stands by its refusals. -/
theorem Sequential.firm_of_never (sequential : Sequential follows reader)
    (never : ∀ text result, reader text ≠ .ok result) : Firm follows exempt reader where
  toSequential := sequential
  refused _ _ := .inr fun more => never (_ ++ more)

theorem Sequential.orderly_of_never (sequential : Sequential follows reader)
    (patient : ∀ {fault}, reader [] = .error fault → fault.cause.category = .truncated)
    (never : ∀ text result, reader text ≠ .ok result) : Orderly follows exempt reader where
  toFirm := sequential.firm_of_never never
  patient stopped category := absurd (patient stopped) category

/-- A reader that never stops has no refusal to stand by. -/
theorem Sequential.orderly_of_total (sequential : Sequential follows reader)
    (total : ∀ text fault, reader text ≠ .error fault) : Orderly follows exempt reader where
  toSequential := sequential
  patient stopped := absurd stopped (total _ _)
  refused stopped := absurd stopped (total _ _)

theorem Orderly.pure (value : α) : Orderly follows exempt (pure value : Reader α) :=
  (Sequential.pure value).orderly_of_total fun _ _ stopped => by cases stopped

namespace Firm

theorem mono {fewer : List Char → Prop} (firm : Firm follows fewer reader)
    (included : ∀ {text}, fewer text → exempt text) : Firm follows exempt reader where
  toSequential := firm.toSequential
  refused stopped category := (firm.refused stopped category).imp_left included

/-- What is exempt behind a value that has been read is exempt with the value in front of it. -/
theorem bind {next : α → Reader β} (first : Firm follows exempt reader)
    (later : α → List Char → Prop) (second : ∀ value, Orderly follows (later value) (next value))
    (passes : ∀ {text value middle}, reader text = .ok (value, middle) → later value middle →
      exempt text) :
    Firm follows exempt (reader >>= next) where
  toSequential := first.toSequential.bind fun value => (second value).toSequential
  refused {text _} stopped category := by
    rcases bind_eq_error_iff.mp stopped with stopped | ⟨value, middle, read, stopped⟩
    · refine (first.refused stopped category).imp_right fun never more result success => ?_
      obtain ⟨_, _, read, _⟩ := bind_eq_ok success
      exact never more _ read
    · -- Where the text ends between the two parts, the second one has looked at nothing yet.
      by_cases left : middle = []
      · subst left
        exact .inl (passes read ((second value).patient stopped category))
      · refine ((second value).refused stopped category).imp (passes read) ?_
        intro never more result success
        rw [bind_eq_of_ok (first.extend read left more)] at success
        exact never more result success

theorem map {change : α → β} (firm : Firm follows exempt reader) :
    Firm follows exempt (change <$> reader) := by
  rw [map_eq_pure_bind]
  exact firm.bind (fun _ => Never) (fun value => .pure (change value)) fun _ never => never.elim

end Firm

namespace Orderly

theorem mono {fewer : List Char → Prop} (orderly : Orderly follows fewer reader)
    (included : ∀ {text}, fewer text → exempt text) : Orderly follows exempt reader where
  toFirm := orderly.toFirm.mono included
  patient stopped category := included (orderly.patient stopped category)

theorem weaken {fewer : List Char → Prop} (orderly : Orderly follows exempt reader)
    (included : ∀ {more}, fewer more → follows more) : Orderly fewer exempt reader where
  toSequential := orderly.toSequential.weaken included
  patient := orderly.patient
  refused := orderly.refused

theorem next : Orderly follows exempt next where
  toSequential := .next
  patient stopped category := by
    cases stopped
    contradiction
  refused {text _} stopped category := by
    cases text with
    | nil =>
        cases stopped
        contradiction
    | cons => cases stopped

theorem refuse {cause : Cause} (given : cause.category ≠ .truncated) :
    Orderly follows exempt (refuse cause : Reader α) := by
  refine (Sequential.refuse given).orderly_of_never (fun stopped => ?_)
    fun text result success => ?_
  · cases stopped
    rfl
  · cases text <;> cases success

theorem bind {next : α → Reader β} (first : Orderly follows exempt reader)
    (later : α → List Char → Prop) (second : ∀ value, Orderly follows (later value) (next value))
    (passes : ∀ {text value middle}, reader text = .ok (value, middle) → later value middle →
      exempt text) :
    Orderly follows exempt (reader >>= next) where
  toFirm := first.toFirm.bind later second passes
  patient stopped category := by
    rcases bind_eq_error_iff.mp stopped with stopped | ⟨value, middle, read, stopped⟩
    · exact first.patient stopped category
    · obtain ⟨used, split⟩ := first.keeps read
      obtain ⟨_, rfl⟩ := List.append_eq_nil_iff.mp split.symm
      exact passes read ((second value).patient stopped category)

/-- Nothing is exempt in the second part. -/
theorem bind_strict {next : α → Reader β} (first : Orderly follows exempt reader)
    (second : ∀ value, Orderly follows Never (next value)) :
    Orderly follows exempt (reader >>= next) :=
  first.bind _ second fun _ never => never.elim

/-- Behind a part that is read alike in front of anything, even the empty text may be refused. -/
theorem bind_settled {next : α → Reader β} (first : Sequential (fun _ => True) reader)
    (wanting : Wanting reader) (later : α → List Char → Prop)
    (second : ∀ value, Firm follows (later value) (next value))
    (passes : ∀ {text value middle}, reader text = .ok (value, middle) → later value middle →
      exempt text) :
    Orderly follows exempt (reader >>= next) where
  toSequential := (first.weaken fun _ => trivial).bind fun value => (second value).toSequential
  patient stopped category := by
    obtain ⟨cause, wants, truncated⟩ := wanting
    rw [bind_eq_of_error wants] at stopped
    cases stopped
    exact absurd truncated category
  refused stopped category := by
    rcases bind_eq_error_iff.mp stopped with stopped | ⟨value, middle, read, stopped⟩
    · refine .inr fun more result success => ?_
      rw [bind_eq_of_error (first.appendFault stopped category trivial)] at success
      cases success
    · refine ((second value).refused stopped category).imp (passes read) ?_
      intro never more result success
      rw [bind_eq_of_ok (first.appendValue read trivial)] at success
      exact never more result success

theorem behindNext (orderly : Orderly follows exempt reader) {exempt' : List Char → Prop}
    (passes : ∀ {char rest}, exempt rest → exempt' (char :: rest)) :
    Orderly follows exempt' (behindNext reader) := by
  refine Orderly.next.bind _ (fun _ => orderly) fun {text _ _} read exempt => ?_
  cases text with
  | nil => cases read
  | cons =>
      cases read
      exact passes exempt

theorem behindNext_strict (orderly : Orderly follows Never reader) :
    Orderly follows exempt (Reader.behindNext reader) :=
  orderly.behindNext False.elim

theorem map {change : α → β} (orderly : Orderly follows exempt reader) :
    Orderly follows exempt (change <$> reader) := by
  rw [map_eq_pure_bind]
  exact orderly.bind_strict fun value => .pure (change value)

theorem ite {condition : Prop} [Decidable condition] {first second : Reader α}
    (one : Orderly follows exempt first) (other : Orderly follows exempt second) :
    Orderly follows exempt (if condition then first else second) := by
  split
  · exact one
  · exact other

theorem behindBlanks (reader : Reader α) (here : List Char → Prop)
    (orderly : Orderly follows here reader) (wanting : Wanting reader)
    (passes : ∀ {text}, here (skipBlanks text) → exempt text) :
    Orderly follows exempt (fun text => reader (skipBlanks text)) where
  toSequential := .behindBlanks reader orderly.toSequential fun _ => wanting
  patient stopped category := passes (orderly.patient stopped category)
  refused {text _} stopped category := by
    by_cases found : skipBlanks text = []
    · obtain ⟨cause, wants, truncated⟩ := wanting
      rw [found, wants] at stopped
      cases stopped
      exact absurd truncated category
    · refine (orderly.refused stopped category).imp passes fun never more result success => ?_
      rw [skipBlanks_append found] at success
      exact never more result success

/-- The next character chooses what is read. Only texts that start with it matter to the choice. -/
theorem glance (choose : Char → Reader α)
    (chosen : ∀ char rest, reader (char :: rest) = choose char (char :: rest))
    (alike : ∀ {left right}, Alike left right → choose left = choose right)
    (each : ∀ char,
      Orderly follows (fun text => text.head? = some char → exempt text) (choose char))
    (atEnd : Sequential.AtEnd follows reader)
    (patient : ∀ {fault}, reader [] = .error fault → fault.cause.category ≠ .truncated →
      exempt []) : Orderly follows exempt reader where
  toSequential := .glance choose chosen alike (fun char => (each char).toSequential) atEnd
  patient := patient
  refused {text _} stopped category := by
    cases text with
    | nil => exact .inl (patient stopped category)
    | cons char text =>
        rw [chosen] at stopped
        refine ((each char).refused stopped category).imp (fun exempt => exempt rfl) ?_
        intro never more result success
        rw [List.cons_append, chosen] at success
        exact never more result success

/-- The first character behind the blanks chooses what is read, and where there is none the reader
wants more text. -/
theorem peek (cause : Cause) (choose : Char → Reader α) (here : List Char → Prop)
    (empty : ∀ {text}, skipBlanks text = [] → reader text = .error (cause.before []))
    (chosen : ∀ {text char rest}, skipBlanks text = char :: rest →
      reader text = choose char (char :: rest))
    (alike : ∀ {left right}, Alike left right → choose left = choose right)
    (each : ∀ char, Orderly follows (fun text => text.head? = some char → here text) (choose char))
    (truncated : cause.category = .truncated)
    (passes : ∀ {text}, here (skipBlanks text) → exempt text) : Orderly follows exempt reader := by
  have same : reader = fun text =>
      Sequential.choosing (.error (cause.before [])) choose (skipBlanks text) := by
    funext text
    cases found : skipBlanks text with
    | nil => exact empty found
    | cons char rest => exact chosen found
  rw [same]
  refine .behindBlanks _ here ?_ ⟨cause, rfl, truncated⟩ passes
  refine .glance choose (fun _ _ => rfl) alike each ⟨rfl, fun _ => truncated⟩ ?_
  intro fault stopped category
  cases stopped
  exact absurd truncated category

variable {step : σ → Reader (Option σ)} {progress : Progresses step} {state : σ}

theorem run_patient {exempt : σ → List Char → Prop} {fault : Fault}
    (each : ∀ state, Orderly follows (exempt state) (step state))
    (stopped : run step progress state [] = .error fault)
    (category : fault.cause.category ≠ .truncated) : exempt state [] := by
  cases read : step state [] with
  | error other =>
      rw [run_of_error read] at stopped
      cases stopped
      exact (each state).patient read category
  | ok result =>
      obtain ⟨next?, middle⟩ := result
      cases next? with
      | none =>
          rw [run_of_none read] at stopped
          cases stopped
      | some next =>
          obtain ⟨_, _, split⟩ := progress read
          cases split

theorem run {exempt : σ → List Char → Prop}
    (each : ∀ state, Orderly follows (exempt state) (step state))
    (passes : ∀ {state text next middle}, step state text = .ok (some next, middle) →
      exempt next middle → exempt state text) (state : σ) :
    Orderly follows (exempt state) (run step progress state) where
  toSequential := .run (fun state => (each state).toSequential) state
  patient := run_patient each
  refused {text fault} stopped category := by
    fun_induction Reader.run step progress state text with
    | case1 state text other failed =>
        cases stopped
        refine ((each state).refused failed category).imp_right fun never more result success => ?_
        cases read : step state (text ++ more) with
        | ok result => exact never more _ read
        | error other =>
            rw [run_of_error read] at success
            cases success
    | case2 => cases stopped
    | case3 state text next middle continued ih =>
        by_cases left : middle = []
        · subst left
          exact .inl (passes continued (run_patient each stopped category))
        · refine (ih stopped).imp (passes continued) fun never more result success => ?_
          rw [run_of_some ((each state).extend continued left more)] at success
          exact never more result success

end Orderly

/-- The text is read up to a mark that is no blank, and with it whatever goes on behind the mark. -/
def Closed (reader : Reader α) (value : α) (text rest : List Char) : Prop :=
  ∃ front mark, text = front ++ mark :: rest ∧ isBlank mark = false ∧
    ∀ other, reader (front ++ mark :: other) = .ok (value, other)

/-- A reader ends at a mark if it goes on, from behind a value, as one that ends there does. -/
theorem Closed.behind {first : Reader β} {second : Reader α} {before : β} {middle : List Char}
    (sequential : Sequential follows first) (read : first text = .ok (before, middle))
    (closed : Closed second value middle rest)
    (onward : ∀ {text middle}, first text = .ok (before, middle) → reader text = second middle) :
    Closed reader value text rest := by
  obtain ⟨front, mark, rfl, visible, closes⟩ := closed
  obtain ⟨used, rfl⟩ := sequential.keeps read
  refine ⟨used ++ front, mark, by simp, visible, fun other => ?_⟩
  rw [← List.append_assoc] at read
  rw [onward (sequential.frame read)]
  exact closes other

theorem Closed.bind {next : α → Reader β} {result : β} {middle : List Char}
    (sequential : Sequential follows reader) (read : reader text = .ok (value, middle))
    (closed : Closed (next value) result middle rest) : Closed (reader >>= next) result text rest :=
  closed.behind sequential read bind_eq_of_ok

theorem Closed.settle {next : α → Reader β} {result : β} (closed : Closed reader value text rest)
    (settled : ∀ other, next value other = .ok (result, other)) :
    Closed (reader >>= next) result text rest := by
  obtain ⟨front, mark, rfl, visible, closes⟩ := closed
  refine ⟨front, mark, rfl, visible, fun other => ?_⟩
  rw [bind_eq_of_ok (closes other), settled]

theorem Closed.of_blanks (blanks : Blanks text (mark :: rest)) (visible : isBlank mark = false)
    (reads : ∀ {text rest}, Blanks text (mark :: rest) → reader text = .ok (value, rest)) :
    Closed reader value text rest := by
  obtain ⟨front, rfl, framed⟩ := blanks.exists_front
  exact ⟨front, mark, rfl, visible, fun other => reads (framed (mark :: other))⟩

theorem Closed.behindOpening {inside : Reader α} {opening : Char} {inner : List Char}
    (found : skipBlanks text = opening :: inner) (closed : Closed inside value inner rest)
    (opens : ∀ {text inner}, skipBlanks text = opening :: inner → reader text = inside inner) :
    Closed reader value text rest := by
  obtain ⟨blanks, visibleOpening⟩ := skipBlanks_eq_cons_iff.mp found
  obtain ⟨before, rfl, framed⟩ := blanks.exists_front
  obtain ⟨front, mark, rfl, visible, closes⟩ := closed
  refine ⟨before ++ opening :: front, mark, by simp, visible, fun other => ?_⟩
  have again : skipBlanks (before ++ opening :: (front ++ mark :: other)) =
      opening :: (front ++ mark :: other) :=
    skipBlanks_eq_cons_iff.mpr ⟨framed _, visibleOpening⟩
  rw [List.append_assoc, List.cons_append, opens again]
  exact closes other

end Reader

end GraphicsProfile.Document
