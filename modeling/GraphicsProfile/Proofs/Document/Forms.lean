import GraphicsProfile.Proofs.Document.Decisions
import GraphicsProfile.Proofs.Document.Reports
import GraphicsProfile.Proofs.Document.RoundTrip

/-! The two forms of a document. The elements of a list and the members of an object go to the same
readers of values, in the same order. What those make of a value does not depend on the marks around
it, so that neither does what is made of the document. -/

namespace GraphicsProfile.Document

open Grammar Reader

variable {α β : Type} {text other middle value rest more elements later : List Char} {draft : Draft}
  {field : Field}

/-- The outcome of a reader, whatever it leaves and wherever it has stopped. -/
def verdict : Except Fault (α × List Char) → Except Cause α
  | .ok (value, _) => .ok value
  | .error fault => .error fault.cause

/-- Behind a text that it decides, a reader passes the same verdict whatever marks follow, and goes
on with them. -/
theorem verdict_bind {reader : Reader α} {next : α → Reader β} {verdicts : α → Except Cause β}
    (sequential : Sequential Delimited reader) (decided : Decided (Leaving rest) (reader text))
    (delimited : Delimited more)
    (continued : ∀ value, reader text = .ok (value, rest) →
      verdict (next value (rest ++ more)) = verdicts value) :
    verdict ((reader >>= next) (text ++ more)) = verdict (reader text) >>= verdicts := by
  cases read : reader text with
  | error fault =>
      rw [read] at decided
      cases decided with
      | refused given =>
          rw [bind_eq_of_error (sequential.appendFault read given delimited)]
          rfl
  | ok result =>
      obtain ⟨value, left⟩ := result
      have same := decided
      rw [read] at same
      cases same with
      | taken same =>
          cases same
          rw [bind_eq_of_ok (sequential.appendValue read delimited)]
          exact continued value read

/-- The text holds one value, with blanks around it. -/
def Lone (text : List Char) : Prop :=
  ∃ value rest, Blanks text value ∧ Value value rest ∧ Blanks rest []

/-- What follows the blanks may be the start of a value. -/
def Opens (text : List Char) : Prop :=
  ∃ first more, Blanks text (first :: more) ∧ isBlank first = false ∧ first ≠ ']'

theorem opens_of_value (blanks : Blanks text value) (form : Value value rest) : Opens text := by
  obtain ⟨first, more, rfl, visible, another⟩ := form.starts
  exact ⟨first, more, blanks, visible, another⟩

theorem lone_of_skipValue (passed : skipValue text = .ok ((), [])) : Lone text :=
  ⟨_, [], blanks_skipBlanks text, skipValue_sound passed, .none⟩

theorem Lone.opens (lone : Lone text) (more : List Char) : Opens (text ++ more) := by
  obtain ⟨value, rest, blanks, form, _⟩ := lone
  obtain ⟨first, later, rfl, visible, another⟩ := form.starts
  exact ⟨first, later ++ more, blanks.append more, visible, another⟩

/-- The value of a field, from behind its colon. -/
def heldValue (draft : Draft) : Field → Reader Draft
  | .name => (fun name => { draft with name? := some name }) <$> nameValue
  | .bindings => (fun bindings => { draft with bindings? := some bindings }) <$> bindingsValue

theorem fieldValue_eq (draft : Draft) (field : Field) :
    fieldValue draft field = colon >>= fun _ => heldValue draft field := by
  cases field <;> simp only [fieldValue, heldValue, map_eq_pure_bind]

theorem documentMember_of_absent (absent : draft.has field = false) :
    documentMember field.key draft = colon >>= fun _ => heldValue draft field := by
  rw [← fieldValue_eq]
  simp [documentMember, ofKey?_eq_some_iff.mpr rfl, absent]

theorem heldValue_sequential (draft : Draft) (field : Field) :
    Sequential Delimited (heldValue draft field) := by
  cases field with
  | name => exact (nameValue_orderly : Orderly Delimited Never nameValue).toSequential.map
  | bindings =>
      exact (bindingsValue_orderly : Orderly Delimited Never bindingsValue).toSequential.map

theorem heldValue_decided (draft : Draft) (field : Field) (blanks : Blanks text value)
    (form : Value value rest) (delimited : Delimited rest) :
    Decided (Leaving rest) (heldValue draft field text) := by
  cases field <;> rw [heldValue]
  · exact .map (nameValue_decided blanks form delimited)
  · exact .map (bindingsValue_decided blanks form delimited)

theorem heldValue_of_blanks (draft : Draft) (field : Field) (blanks : Blanks text middle) :
    heldValue draft field text = heldValue draft field middle := by
  cases field <;>
    simp only [heldValue, map_text, nameValue, bindingsValue, blanks.skipBlanks_eq]

/-- The other field stays as it was. -/
theorem heldValue_has {next : Draft} {other : Field} (different : other ≠ field)
    (read : heldValue draft field text = .ok (next, rest)) : next.has other = draft.has other := by
  cases field <;> obtain ⟨_, _, rfl⟩ := map_eq_ok_iff.mp read <;> cases other <;>
    first | rfl | contradiction

theorem Grammar.Blanks.delimited_of_nil (blanks : Blanks text []) : Delimited text := by
  cases blanks with
  | none => exact fun char member => by cases member
  | more blank _ => exact fun char member => .inl ((Option.mem_some.mp member) ▸ blank)

theorem delimited_mark {mark : Char} (ending : mark = ',' ∨ mark = ']' ∨ mark = '}') :
    Delimited (mark :: more) :=
  Blanks.none.delimited ending

theorem blanks_mark {mark : Char} (blanks : Blanks text []) :
    Blanks (text ++ mark :: more) (mark :: more) :=
  blanks.append (mark :: more)

/-- The verdict on a field is passed on its value alone. -/
theorem verdict_heldValue_bind {next : Draft → Reader α} {verdicts : Draft → Except Cause α}
    (lone : Lone text) (delimited : Delimited more)
    (continued : ∀ value rest, Blanks rest [] → heldValue draft field text = .ok (value, rest) →
      verdict (next value (rest ++ more)) = verdicts value) :
    verdict ((heldValue draft field >>= next) (text ++ more)) =
      verdict (heldValue draft field text) >>= verdicts := by
  obtain ⟨value, rest, blanks, form, after⟩ := lone
  have decided := heldValue_decided draft field blanks form after.delimited_of_nil
  exact verdict_bind (heldValue_sequential draft field) decided delimited fun value read =>
    continued value rest after read

/-- What is made of the values of some fields, in the order in which they stand. -/
def fieldsVerdict (draft : Draft) : List (Field × List Char) → Except Cause Registry
  | [] => .ok draft.registry
  | (field, text) :: later =>
    verdict (heldValue draft field text) >>= fun draft => fieldsVerdict draft later

section Lists

/-- What follows the first element of a document. -/
def furtherElement (draft : Draft) : Reader Draft := do
  match ← nextElement with
  | false => return draft
  | true => heldValue draft .bindings

/-- What follows the elements of a document. -/
def closing (draft : Draft) : Reader Registry := do
  closeList
  documentEnd
  return draft.registry

theorem documentElements_eq :
    documentElements = firstElement >>= fun more => match more with
      | false => pure .empty
      | true => heldValue .empty .name >>= furtherElement := by
  refine congrArg (firstElement >>= ·) (funext fun more => ?_)
  cases more with
  | false => rfl
  | true =>
      dsimp only
      rw [heldValue, bind_map_left]
      refine congrArg (nameValue >>= ·) (funext fun name => ?_)
      refine congrArg (nextElement >>= ·) (funext fun more => ?_)
      cases more with
      | false => rfl
      | true =>
          rw [heldValue, map_eq_pure_bind]

theorem wholeDocument_list (text : List Char) :
    wholeDocument ('[' :: text) = (documentElements >>= closing) text := by
  have list : documentValue ('[' :: text) =
      (documentElements >>= fun draft => closeList >>= fun _ => pure draft) text := rfl
  rw [wholeDocument, bind_eq_of_eq list]
  simp only [bind_assoc, pure_bind]
  rfl

theorem documentElements_of_opens (opens : Opens text) :
    documentElements text = (heldValue .empty .name >>= furtherElement) text := by
  obtain ⟨first, more, blanks, visible, another⟩ := opens
  rw [documentElements_eq, bind_eq_of_ok (firstElement_complete blanks visible another)]
  exact bind_eq_of_eq (heldValue_of_blanks .empty .name blanks).symm

theorem furtherElement_of_comma (comma : Blanks text (',' :: later)) (opens : Opens later) :
    furtherElement draft text = heldValue draft .bindings later := by
  obtain ⟨first, more, blanks, visible, another⟩ := opens
  rw [furtherElement, bind_eq_of_ok (nextElement_complete comma blanks visible another),
    heldValue_of_blanks draft .bindings blanks]

theorem furtherElement_of_close (close : Blanks text (']' :: rest)) :
    furtherElement draft text = .ok (draft, ']' :: rest) := by
  rw [furtherElement, bind_eq_of_ok (nextElement_eq_false_iff.mpr ⟨rest, close, rfl⟩)]
  rfl

theorem closing_of_close (close : Blanks text [']']) :
    closing draft text = .ok (draft.registry, []) := by
  rw [closing, bind_eq_of_ok (closeList_eq_ok_iff.mpr close)]
  rfl

theorem wholeDocument_of_opens (opens : Opens text) :
    wholeDocument ('[' :: text) =
      (heldValue .empty .name >>= fun draft => furtherElement draft >>= closing) text := by
  rw [wholeDocument_list, bind_eq_of_eq (documentElements_of_opens opens), bind_assoc]

theorem verdict_list_one (name : Lone text) :
    verdict (wholeDocument ('[' :: (text ++ [']']))) = fieldsVerdict .empty [(.name, text)] := by
  rw [wholeDocument_of_opens (name.opens _)]
  refine verdict_heldValue_bind name (delimited_mark (.inr (.inl rfl))) fun draft rest after _ => ?_
  rw [bind_eq_of_ok (furtherElement_of_close (blanks_mark after)), closing_of_close .none]
  rfl

theorem verdict_list_two (name : Lone text) (bindings : Lone other) :
    verdict (wholeDocument ('[' :: (text ++ ',' :: (other ++ [']'])))) =
      fieldsVerdict .empty [(.name, text), (.bindings, other)] := by
  rw [wholeDocument_of_opens (name.opens _)]
  refine verdict_heldValue_bind name (delimited_mark (.inl rfl)) fun draft rest after _ => ?_
  rw [bind_eq_of_eq (furtherElement_of_comma (blanks_mark after) (bindings.opens _))]
  refine verdict_heldValue_bind bindings (delimited_mark (.inr (.inl rfl)))
    fun draft rest after _ => ?_
  rw [closing_of_close (blanks_mark after)]
  rfl

end Lists

section Objects

/-- What follows a member of a document. -/
def furtherMembers (draft : Draft) : Reader Registry := do
  let draft ← run (memberStep documentMember) (memberStep_progresses documentMember_keeps) draft
  documentEnd
  return draft.registry

/-- The key of a field and its colon, in front of a text. -/
def fieldText (field : Field) (text : List Char) : List Char :=
  writeLiteral field.key ++ ':' :: text

theorem fieldText_eq (field : Field) (text : List Char) :
    fieldText field text = '"' :: (field.key.toList.flatMap writeChar ++ '"' :: ':' :: text) :=
  writeLiteral_append field.key

theorem blanks_fieldText (field : Field) (text : List Char) :
    ∃ key, Blanks (fieldText field text) ('"' :: key) := by
  rw [fieldText_eq]
  exact ⟨_, .none⟩

theorem keyedMember_of_field (absent : draft.has field = false) :
    keyedMember documentMember draft (fieldText field text) = heldValue draft field text := by
  have opened : openKey (fieldText field text) = .ok (field.key, ':' :: text) := by
    rw [fieldText_eq]
    exact literal_eq_ok_iff.mpr (literal_flatMap_writeChar _)
  have visible : skipBlanks (fieldText field text) = fieldText field text := by
    rw [fieldText_eq]
    rfl
  rw [keyedMember, visible, bind_eq_of_ok opened, documentMember_of_absent absent]
  exact bind_eq_of_ok (colon_eq_ok_iff.mpr .none)

theorem documentValue_brace (text : List Char) :
    documentValue ('{' :: text) = foldMembers documentMember documentMember_keeps .empty text := rfl

theorem wholeDocument_object {key : List Char} (blanks : Blanks text ('"' :: key)) :
    wholeDocument ('{' :: text) =
      (keyedMember documentMember .empty >>= furtherMembers) text := by
  rw [wholeDocument, bind_eq_of_eq ((documentValue_brace text).trans (foldMembers_of_quote blanks)),
    bind_assoc]
  rfl

theorem furtherMembers_of_close (close : Blanks text ['}']) :
    furtherMembers draft text = .ok (draft.registry, []) := by
  rw [furtherMembers, bind_eq_of_ok (run_of_none (memberStep_eq_none_iff.mpr close))]
  rfl

theorem furtherMembers_of_comma {key : List Char} (comma : Blanks text (',' :: later))
    (blanks : Blanks later ('"' :: key)) :
    furtherMembers draft text = (keyedMember documentMember draft >>= furtherMembers) later := by
  rw [furtherMembers, run_eq_bind, bind_assoc, bind_eq_of_eq (memberStep_of_comma comma blanks),
    bind_map_left]
  rfl

theorem verdict_object_one (lone : Lone text) :
    verdict (wholeDocument ('{' :: fieldText field (text ++ ['}']))) =
      fieldsVerdict .empty [(field, text)] := by
  obtain ⟨key, blanks⟩ := blanks_fieldText field (text ++ ['}'])
  have absent : Draft.empty.has field = false := by cases field <;> rfl
  rw [wholeDocument_object blanks, bind_eq_of_eq (keyedMember_of_field absent)]
  refine verdict_heldValue_bind lone (delimited_mark (.inr (.inr rfl))) fun draft rest after _ => ?_
  rw [furtherMembers_of_close (blanks_mark after)]
  rfl

theorem verdict_object_two {second : Field} (one : Lone text) (two : Lone other)
    (different : second ≠ field) :
    verdict (wholeDocument ('{' :: fieldText field (text ++ ',' ::
        fieldText second (other ++ ['}'])))) =
      fieldsVerdict .empty [(field, text), (second, other)] := by
  obtain ⟨key, blanks⟩ := blanks_fieldText field (text ++ ',' :: fieldText second (other ++ ['}']))
  obtain ⟨key', blanks'⟩ := blanks_fieldText second (other ++ ['}'])
  have absent : ∀ field, Draft.empty.has field = false := fun field => by cases field <;> rfl
  rw [wholeDocument_object blanks, bind_eq_of_eq (keyedMember_of_field (absent field))]
  refine verdict_heldValue_bind one (delimited_mark (.inl rfl)) fun draft rest after read => ?_
  -- The first value fills its own field only, so the second key repeats nothing.
  have missing : draft.has second = false := (heldValue_has different read).trans (absent second)
  rw [furtherMembers_of_comma (blanks_mark after) blanks',
    bind_eq_of_eq (keyedMember_of_field missing)]
  refine verdict_heldValue_bind two (delimited_mark (.inr (.inr rfl))) fun draft rest after _ => ?_
  rw [furtherMembers_of_close (blanks_mark after)]
  rfl

end Objects

/-- Values that are accepted are accepted in either order. -/
theorem verdict_swapped {registry : Registry}
    (accepted : fieldsVerdict .empty [(.name, text), (.bindings, other)] = .ok registry) :
    fieldsVerdict .empty [(.bindings, other), (.name, text)] = .ok registry := by
  obtain ⟨named, name, accepted⟩ := except_bind_eq_ok accepted
  obtain ⟨filled, bindings, accepted⟩ := except_bind_eq_ok accepted
  simp only [fieldsVerdict, heldValue, map_text] at name bindings ⊢
  cases nameRead : nameValue text with
  | error fault =>
      rw [nameRead] at name
      cases name
  | ok nameResult =>
      cases bindingsRead : bindingsValue other with
      | error fault =>
          rw [bindingsRead] at bindings
          cases bindings
      | ok bindingsResult =>
          rw [nameRead] at name
          rw [bindingsRead] at bindings
          cases name
          cases bindings
          exact accepted

/-- Two elements of a list are taken as a name and as bindings. What follows is left to the
bracket. -/
theorem documentElements_decided {behind : List Char} (first : Element text () middle)
    (comma : Blanks middle (',' :: later)) (last : Element later () behind)
    (delimited : Delimited behind) : Decided (Leaving behind) (documentElements text) := by
  obtain ⟨before, form⟩ := first
  obtain ⟨before', form'⟩ := last
  rw [documentElements_of_opens (opens_of_value before form)]
  refine (heldValue_decided .empty .name before form (comma.delimited (.inl rfl))).bind
    fun {draft _} same => ?_
  subst same
  rw [furtherElement_of_comma comma (opens_of_value before' form')]
  exact heldValue_decided draft .bindings before' form' delimited

/-- A list that goes on behind its second element is not read. -/
theorem readRegistry_ne_ok_of_siblings {last : List Char} {siblings : List Unit}
    {registry : Registry} (before : Blanks text ('[' :: elements))
    (leading : Leading Element elements siblings last) (many : 2 ≤ siblings.length) :
    readRegistry text ≠ .ok registry := by
  intro success
  obtain ⟨draft, rest, read, _⟩ := readRegistry_eq_ok_iff_draft.mp success
  simp only [documentValue, skipBlanks_eq_cons_iff.mpr ⟨before, rfl⟩] at read
  obtain ⟨⟨held, ending⟩, taken, read⟩ := except_bind_eq_ok read
  obtain ⟨⟨_, _⟩, closed, _⟩ := except_bind_eq_ok read
  cases leading with
  | none => contradiction
  | more first comma others =>
      cases others with
      | none => exact absurd many (by simp)
      | more second further _ =>
          have decided :=
            documentElements_decided first comma second (further.delimited (.inl rfl))
          rw [taken] at decided
          cases decided with
          | taken same =>
              cases same
              cases further.mark_unique (closeList_eq_ok_iff.mp closed) rfl rfl

theorem verdict_eq_error_iff {outcome : Except Fault (α × List Char)} {cause : Cause} :
    verdict outcome = .error cause ↔ ∃ left, outcome = .error ⟨cause, left⟩ := by
  cases outcome with
  | ok result => simp [verdict]
  | error fault =>
      obtain ⟨other, left⟩ := fault
      simp [verdict]

theorem verdict_eq_ok_iff {registry : Registry} :
    verdict (wholeDocument text) = .ok registry ↔ readRegistry text = .ok registry := by
  rw [readRegistry]
  cases wholeDocument text <;> simp [verdict, Except.map]

/-- Two documents are loaded as the same registry, or they are refused with the same category and in
the same words up to the position. -/
def Agreeing (left right : Logged (Except ProfileError Registry)) : Prop :=
  (left = right ∧ ∃ registry, left.value = .ok registry) ∨
    ∃ one other : DocumentError, left = ⟨.error (.badDocument one), []⟩ ∧
      right = ⟨.error (.badDocument other), []⟩ ∧ one.category = other.category ∧
      ∃ words, ∀ error ∈ [one, other], error.message = words ++
        " at line " ++ toString error.position.line ++ " column " ++ toString error.position.column

theorem agreeing_of_verdict {left right : String}
    (same : verdict (wholeDocument left.toList) = verdict (wholeDocument right.toList)) :
    Agreeing (Registry.load left) (Registry.load right) := by
  cases judged : verdict (wholeDocument left.toList) with
  | ok registry =>
      have one := verdict_eq_ok_iff.mp judged
      have other := verdict_eq_ok_iff.mp (same.symm.trans judged)
      exact .inl ⟨(load_of_read one).trans (load_of_read other).symm, registry,
        load_value_eq_ok_iff.mpr one⟩
  | error cause =>
      obtain ⟨_, one⟩ := verdict_eq_error_iff.mp judged
      obtain ⟨_, other⟩ := verdict_eq_error_iff.mp (same.symm.trans judged)
      refine .inr ⟨_, _, load_of_fault (readRegistry_eq_error_iff.mpr one),
        load_of_fault (readRegistry_eq_error_iff.mpr other), rfl, cause.description, ?_⟩
      simp [DocumentError.message, Fault.within]

theorem fieldText_name (text : List Char) : fieldText .name text = "\"name\":".toList ++ text := by
  have key : writeLiteral Field.name.key = "\"name\"".toList := by decide
  simp [fieldText, key]

theorem fieldText_bindings (text : List Char) :
    fieldText .bindings text = "\"enums\":".toList ++ text := by
  have key : writeLiteral Field.bindings.key = "\"enums\"".toList := by decide
  simp [fieldText, key]

theorem load_list_agrees {name : String} (lone : Lone name.toList) :
    Agreeing (Registry.load ("[" ++ name ++ "]"))
      (Registry.load ("\x7b\"name\":" ++ name ++ "\x7d")) := by
  have list : ("[" ++ name ++ "]").toList = '[' :: (name.toList ++ [']']) := by simp
  have object : ("\x7b\"name\":" ++ name ++ "\x7d").toList =
      '{' :: fieldText .name (name.toList ++ ['}']) := by simp [fieldText_name]
  apply agreeing_of_verdict
  rw [list, object, verdict_list_one lone, verdict_object_one lone]

section Pairs

variable {name bindings : String} (loneName : Lone name.toList)
  (loneBindings : Lone bindings.toList)

include loneName loneBindings

theorem verdict_pair :
    verdict (wholeDocument ("[" ++ name ++ "," ++ bindings ++ "]").toList) =
      fieldsVerdict .empty [(.name, name.toList), (.bindings, bindings.toList)] := by
  have list : ("[" ++ name ++ "," ++ bindings ++ "]").toList =
      '[' :: (name.toList ++ ',' :: (bindings.toList ++ [']'])) := by simp
  rw [list, verdict_list_two loneName loneBindings]

theorem load_pair_agrees :
    Agreeing (Registry.load ("[" ++ name ++ "," ++ bindings ++ "]"))
      (Registry.load ("\x7b\"name\":" ++ name ++ ",\"enums\":" ++ bindings ++ "\x7d")) := by
  have object : ("\x7b\"name\":" ++ name ++ ",\"enums\":" ++ bindings ++ "\x7d").toList =
      '{' :: fieldText .name (name.toList ++ ',' ::
        fieldText .bindings (bindings.toList ++ ['}'])) := by
    simp [fieldText_name, fieldText_bindings]
  apply agreeing_of_verdict
  rw [verdict_pair loneName loneBindings, object,
    verdict_object_two loneName loneBindings (by decide)]

theorem load_pair_swapped {registry : Registry}
    (accepted : (Registry.load ("[" ++ name ++ "," ++ bindings ++ "]")).value = .ok registry) :
    (Registry.load ("\x7b\"enums\":" ++ bindings ++ ",\"name\":" ++ name ++ "\x7d")).value =
      .ok registry := by
  have object : ("\x7b\"enums\":" ++ bindings ++ ",\"name\":" ++ name ++ "\x7d").toList =
      '{' :: fieldText .bindings (bindings.toList ++ ',' ::
        fieldText .name (name.toList ++ ['}'])) := by
    simp [fieldText_name, fieldText_bindings]
  rw [load_value_eq_ok_iff, ← verdict_eq_ok_iff] at accepted ⊢
  rw [verdict_pair loneName loneBindings] at accepted
  rw [object, verdict_object_two loneBindings loneName (by decide)]
  exact verdict_swapped accepted

end Pairs

theorem load_refused_of_siblings {document : String} {last : List Char} {siblings : List Unit}
    (before : Blanks document.toList ('[' :: elements))
    (leading : Leading Element elements siblings last) (many : 2 ≤ siblings.length) :
    ∃ error, Registry.load document = ⟨.error (.badDocument error), []⟩ := by
  cases read : readRegistry document.toList with
  | ok registry => exact absurd read (readRegistry_ne_ok_of_siblings before leading many)
  | error fault => exact ⟨_, load_of_fault read⟩

/-- The list form and the object form of a document say the same of any two values, and the members
of the object may come in either order. A list that goes on behind a second element, to a third one
or whatever else, is refused. -/
theorem load_forms_agree :
    (∀ name bindings : String, Lone name.toList → Lone bindings.toList →
      Agreeing (Registry.load ("[" ++ name ++ "," ++ bindings ++ "]"))
        (Registry.load ("\x7b\"name\":" ++ name ++ ",\"enums\":" ++ bindings ++ "\x7d")) ∧
      ∀ registry, (Registry.load ("[" ++ name ++ "," ++ bindings ++ "]")).value = .ok registry →
        (Registry.load ("\x7b\"enums\":" ++ bindings ++ ",\"name\":" ++ name ++ "\x7d")).value =
          .ok registry) ∧
    (∀ name : String, Lone name.toList →
      Agreeing (Registry.load ("[" ++ name ++ "]"))
        (Registry.load ("\x7b\"name\":" ++ name ++ "\x7d"))) ∧
    ∀ (document : String) (elements last : List Char) (siblings : List Unit),
      Blanks document.toList ('[' :: elements) → Leading Element elements siblings last →
        2 ≤ siblings.length →
          ∃ error, Registry.load document = ⟨.error (.badDocument error), []⟩ := by
  refine ⟨?_, fun name lone => load_list_agrees lone, ?_⟩
  · intro name bindings loneName loneBindings
    refine ⟨load_pair_agrees loneName loneBindings, fun registry accepted => ?_⟩
    exact load_pair_swapped loneName loneBindings accepted
  · intro document elements last siblings before leading many
    exact load_refused_of_siblings before leading many

theorem load_forms_agree_bound :
    Agreeing (Registry.load "[\"WebGL\", \x7b\"POINTS\": 7\x7d]")
      (Registry.load "\x7b\"name\":\"WebGL\",\"enums\": \x7b\"POINTS\": 7\x7d\x7d") ∧
    (Registry.load "\x7b\"enums\": \x7b\"POINTS\": 7\x7d,\"name\":\"WebGL\"\x7d").value =
      .ok ((Registry.named "WebGL").bind "POINTS" 7) ∧
    Agreeing (Registry.load "[null]") (Registry.load "\x7b\"name\":null\x7d") ∧
    ∃ error, Registry.load "[null,[],7]" = ⟨.error (.badDocument error), []⟩ := by
  obtain ⟨pairs, lists, siblings⟩ := load_forms_agree
  have name : Lone "\"WebGL\"".toList := lone_of_skipValue (by with_unfolding_all rfl)
  have bindings : Lone " \x7b\"POINTS\": 7\x7d".toList :=
    lone_of_skipValue (by with_unfolding_all rfl)
  have null : Lone "null".toList := lone_of_skipValue rfl
  have accepted : (Registry.load "[\"WebGL\", \x7b\"POINTS\": 7\x7d]").value =
      .ok ((Registry.named "WebGL").bind "POINTS" 7) := by with_unfolding_all rfl
  obtain ⟨agreeing, swapped⟩ := pairs "\"WebGL\"" " \x7b\"POINTS\": 7\x7d" name bindings
  have leading : Leading Element "null,[],7]".toList [(), ()] "7]".toList :=
    .more (.element .none .null) .none (.more (.element .none (.emptyList .none)) .none .none)
  exact ⟨agreeing, swapped _ accepted, lists "null" null,
    siblings _ _ _ _ .none leading (Nat.le_refl 2)⟩

end GraphicsProfile.Document
