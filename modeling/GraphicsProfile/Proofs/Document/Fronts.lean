import GraphicsProfile.Proofs.Document.Forms
import GraphicsProfile.Proofs.Document.Spellings

/-! What the front of a document leaves to be read.

Behind the members and elements of a front, the document goes on with the reader of the next value
and with what that reader's value is wanted for. It does so whatever stands behind the front. -/

namespace GraphicsProfile.Document

open Grammar Reader

variable {α σ : Type} {text members last spelled separated behind rest : List Char}
  {key name : String} {draft : Draft} {field : Field} {contributions : List Contribution}
  {bindings : List (String × UInt32)}

theorem Grammar.Literal.exists_front {decoded : List Char} (form : Literal text decoded rest) :
    ∃ front, text = front ++ rest ∧ ∀ other, Literal (front ++ other) decoded other := by
  obtain ⟨spelling, rfl, written⟩ := literal_iff_spelling.mp form
  refine ⟨spelling ++ ['"'], by simp, fun other => ?_⟩
  exact literal_iff_spelling.mpr ⟨spelling, by simp, written⟩

section Members

variable {member : String → σ → Reader σ} {item : List Char → α → List Char → Prop}
  {accept : σ → α → Option σ} {state final : σ} {values : List α} {follows : List Char → Prop}

/-- Behind the quote that opens its key, a member is read whatever follows. -/
theorem keyedMember_of_opening (opening : Blanks text ('"' :: spelled)) :
    ∃ used, text = used ++ spelled ∧ ∀ other, (∃ quoted, Blanks (used ++ other) ('"' :: quoted)) ∧
      keyedMember member state (used ++ other) =
        (literal >>= fun key => member key state : Reader σ) other := by
  obtain ⟨before, rfl, framed⟩ := opening.exists_front
  refine ⟨before ++ ['"'], by simp, fun other => ?_⟩
  have quoted : Blanks (before ++ ['"'] ++ other) ('"' :: other) := by
    rw [List.append_assoc]
    exact framed _
  exact ⟨⟨_, quoted⟩, keyedMember_of_quote quoted⟩

/-- The members of an object from a key on. -/
def furtherItems (member : String → σ → Reader σ) (keeps : ∀ key state, Keeps (member key state))
    (state : σ) : Reader σ :=
  keyedMember member state >>= run (memberStep member) (memberStep_progresses keeps)

variable (keeps : ∀ key state, Keeps (member key state))

theorem furtherItems_of_opening (law : MemberLaw member item accept)
    (each : ∀ key state, Sequential follows (member key state))
    (leading : Leading item text values last) (folded : values.foldlM accept state = some final)
    (opening : Blanks last ('"' :: spelled)) :
    ∃ used, text = used ++ spelled ∧ ∀ other, (∃ quoted, Blanks (used ++ other) ('"' :: quoted)) ∧
      furtherItems member keeps state (used ++ other) = (literal >>= fun key =>
        member key final >>= run (memberStep member) (memberStep_progresses keeps)) other := by
  induction leading generalizing state with
  | none =>
      cases folded
      obtain ⟨used, split, passes⟩ := keyedMember_of_opening opening
      refine ⟨used, split, fun other => ⟨(passes other).1, ?_⟩⟩
      rw [furtherItems, bind_eq_of_eq (passes other).2, bind_assoc]
  | more first comma _ ih =>
      rw [List.foldlM_cons] at folded
      obtain ⟨next, accepted, folded⟩ := Option.bind_eq_some_iff.mp folded
      obtain ⟨used, rfl, passes⟩ := ih folded opening
      obtain ⟨gap, rfl, framed⟩ := comma.exists_front
      have sequential := keyedMember_sequential each state
      have read := law.complete first (comma.delimited (.inl rfl)) accepted
      obtain ⟨front, rfl⟩ := sequential.keeps read
      rw [← List.append_assoc] at read
      refine ⟨front ++ gap ++ ',' :: used, by simp, fun other => ?_⟩
      obtain ⟨⟨quoted, opened⟩, onward⟩ := passes other
      have framedRead : keyedMember member state (front ++ gap ++ ',' :: (used ++ other)) =
          .ok (next, gap ++ ',' :: (used ++ other)) := sequential.frame read
      obtain ⟨_, spelled, _, start, _⟩ := keyedMember_eq_ok_iff.mp framedRead
      rw [List.append_assoc, List.cons_append]
      refine ⟨⟨spelled, start⟩, ?_⟩
      rw [furtherItems, bind_eq_of_ok framedRead, run_eq_bind,
        bind_eq_of_eq (memberStep_of_comma (framed _) opened), bind_map_left]
      exact onward

/-- Behind its first members and the quote that opens a further key, an object is read whatever
follows. -/
theorem foldMembers_of_opening (law : MemberLaw member item accept)
    (each : ∀ key state, Sequential follows (member key state))
    (leading : Leading item text values last) (folded : values.foldlM accept state = some final)
    (opening : Blanks last ('"' :: spelled)) :
    ∃ used, text = used ++ spelled ∧ ∀ other, foldMembers member keeps state (used ++ other) =
      (literal >>= fun key =>
        member key final >>= run (memberStep member) (memberStep_progresses keeps)) other := by
  obtain ⟨used, split, passes⟩ := furtherItems_of_opening keeps law each leading folded opening
  refine ⟨used, split, fun other => ?_⟩
  obtain ⟨⟨quoted, opened⟩, onward⟩ := passes other
  rw [foldMembers_of_quote opened]
  exact onward

end Members

theorem wholeDocument_of_blanks {middle : List Char} (blanks : Blanks text middle) :
    wholeDocument text = wholeDocument middle := by
  refine bind_eq_of_eq ?_
  simp only [documentValue, blanks.skipBlanks_eq]

/-- Behind its first members and the quote that opens a further key, a document is read whatever
follows. -/
theorem wholeDocument_of_opening (before : Blanks text ('{' :: members))
    (leading : Leading Member members contributions last)
    (folded : contributions.foldlM Draft.accept .empty = some draft)
    (opening : Blanks last ('"' :: spelled)) :
    ∃ used, text = used ++ spelled ∧ ∀ other, wholeDocument (used ++ other) =
      (literal >>= fun key => documentMember key draft >>= furtherMembers) other := by
  obtain ⟨used, rfl, passes⟩ := foldMembers_of_opening documentMember_keeps documentLaw
    (fun key draft => (documentMember_firm key draft).toSequential) leading folded opening
  obtain ⟨front, rfl, framed⟩ := before.exists_front
  refine ⟨front ++ '{' :: used, by simp, fun other => ?_⟩
  have object := (documentValue_brace (used ++ other)).trans (passes other)
  rw [List.append_assoc, List.cons_append, wholeDocument_of_blanks (framed _), wholeDocument,
    bind_eq_of_eq object, bind_assoc]
  simp only [bind_assoc]
  rfl

/-- Behind its first members and a further key, a document is read whatever follows. -/
theorem wholeDocument_of_leading (before : Blanks text ('{' :: members))
    (leading : Leading Member members contributions last)
    (folded : contributions.foldlM Draft.accept .empty = some draft)
    (opening : Blanks last ('"' :: spelled)) (form : Literal spelled key.toList behind) :
    ∃ used, text = used ++ behind ∧ ∀ other,
      wholeDocument (used ++ other) = (documentMember key draft >>= furtherMembers) other := by
  obtain ⟨used, rfl, passes⟩ := wholeDocument_of_opening before leading folded opening
  obtain ⟨front, rfl, framed⟩ := form.exists_front
  refine ⟨used ++ front, by simp, fun other => ?_⟩
  rw [List.append_assoc, passes, bind_eq_of_ok (literal_eq_ok_iff.mpr (framed other))]

/-- What follows the bindings of a document: they are kept, and the document can be ended. -/
structure Finishes (onward : Table UInt32 → Reader Registry) : Prop where
  held : ∀ {table text registry rest}, onward table text = .ok (registry, rest) →
    registry.bindings = table
  ends : ∃ ending, ∀ table, ∃ registry, onward table ending = .ok (registry, [])

theorem finishes_list (draft : Draft) :
    Finishes fun table => closing { draft with bindings? := some table } where
  held success := by
    obtain ⟨_, _, _, success⟩ := bind_eq_ok success
    obtain ⟨_, _, _, success⟩ := bind_eq_ok success
    obtain ⟨rfl, _⟩ := pure_eq_ok success
    rfl
  ends := ⟨[']'], fun _ => ⟨_, closing_of_close .none⟩⟩

theorem finishes_object (draft : Draft) :
    Finishes fun table => furtherMembers { draft with bindings? := some table } where
  held success := by
    obtain ⟨final, _, read, success⟩ := bind_eq_ok success
    obtain ⟨_, _, _, success⟩ := bind_eq_ok success
    obtain ⟨rfl, _⟩ := pure_eq_ok success
    obtain ⟨contributions, _, folded⟩ := memberRun_sound documentLaw read
    obtain ⟨_, _, rfl⟩ := accept_fold_iff.mp folded
    rfl
  ends := ⟨['}'], fun _ => ⟨_, furtherMembers_of_close .none⟩⟩

theorem field?_eq_name_iff {contribution : Contribution} :
    contribution.field? = some .name ↔ contribution.name?.isSome = true := by
  cases contribution <;> simp [Contribution.field?, Contribution.name?]

theorem field?_eq_bindings_iff {contribution : Contribution} :
    contribution.field? = some .bindings ↔ contribution.bindings?.isSome = true := by
  cases contribution <;> simp [Contribution.field?, Contribution.bindings?]

/-- Members are accepted as long as they repeat no field, and the draft has the fields that they
contribute. -/
theorem accepted_iff_unrepeated :
    contributions.foldlM Draft.accept .empty = some draft ↔ Unrepeated contributions ∧
      draft = ⟨contributions.findSome? Contribution.name?,
        (contributions.findSome? Contribution.bindings?).map Table.ofList⟩ := by
  rw [accept_fold_iff, ← and_assoc, empty_names_tables]
  simp only [Draft.names, Draft.tables, Draft.empty, Option.toList_none, List.nil_append,
    List.head?_map, List.head?_filterMap]

theorem has_of_accepted (folded : contributions.foldlM Draft.accept .empty = some draft) :
    draft.has field = true ↔ ∃ contribution ∈ contributions, contribution.field? = some field := by
  obtain ⟨_, rfl⟩ := accepted_iff_unrepeated.mp folded
  cases field with
  | name => simp only [Draft.has, List.findSome?_isSome_iff, field?_eq_name_iff]
  | bindings =>
      simp only [Draft.has, Option.isSome_map, List.findSome?_isSome_iff, field?_eq_bindings_iff]

theorem colon_of_blanks (around : Blanks text (':' :: separated)) (next : Reader α) :
    ∃ used, text = used ++ separated ∧ ∀ other,
      (colon >>= fun _ => next) (used ++ other) = next other := by
  obtain ⟨front, rfl, framed⟩ := around.exists_front
  refine ⟨front ++ [':'], by simp, fun other => bind_eq_of_ok (colon_eq_ok_iff.mpr ?_)⟩
  rw [List.append_assoc]
  exact framed _

theorem unnamed_of_fresh (fresh : contributions.findSome? Contribution.name? = none) :
    ∀ contribution ∈ contributions, contribution.field? ≠ some .name := by
  intro contribution member same
  have unnamed := List.findSome?_eq_none_iff.mp fresh contribution member
  cases contribution with
  | name held => cases unnamed
  | _ => cases same

theorem unbound_of_fresh (fresh : contributions.findSome? Contribution.bindings? = none) :
    ∀ contribution ∈ contributions, contribution.field? ≠ some .bindings := by
  intro contribution member same
  have unbound := List.findSome?_eq_none_iff.mp fresh contribution member
  cases contribution with
  | bindings held => cases unbound
  | _ => cases same

/-- Behind its first members and the key of a fresh field, a document goes on with the value of
that field. -/
theorem heldValue_of_member (before : Blanks text ('{' :: members))
    (leading : Leading Member members contributions last) (unrepeated : Unrepeated contributions)
    (fresh : ∀ contribution ∈ contributions, contribution.field? ≠ some field)
    (key : Key last field.key separated) :
    ∃ used draft, text = used ++ separated ∧ ∀ other,
      wholeDocument (used ++ other) = (heldValue draft field >>= furtherMembers) other := by
  obtain ⟨draft, folded⟩ : ∃ draft, contributions.foldlM Draft.accept .empty = some draft :=
    ⟨_, accepted_iff_unrepeated.mpr ⟨unrepeated, rfl⟩⟩
  obtain ⟨blanks, form, around⟩ := key
  obtain ⟨gap, rfl, separates⟩ := colon_of_blanks around (heldValue draft field >>= furtherMembers)
  obtain ⟨used, rfl, passes⟩ := wholeDocument_of_leading before leading folded blanks form
  have absent : draft.has field = false := by
    refine Bool.eq_false_iff.mpr fun present => ?_
    obtain ⟨contribution, member, same⟩ := (has_of_accepted folded).mp present
    exact fresh contribution member same
  refine ⟨used ++ gap, draft, by simp, fun other => ?_⟩
  rw [List.append_assoc, passes, documentMember_of_absent absent, bind_assoc]
  exact separates other

/-- Behind the name in a list and a comma, a document goes on with the value of the bindings. -/
theorem heldValue_of_element {elements second : List Char}
    (before : Blanks text ('[' :: elements)) (first : Blanks elements ('"' :: spelled))
    (form : Literal spelled name.toList behind) (comma : Blanks behind (',' :: second)) :
    ∃ used draft, text = used ++ second ∧ ∀ other, Opens other →
      wholeDocument (used ++ other) = (heldValue draft .bindings >>= closing) other := by
  obtain ⟨outer, rfl, framedOuter⟩ := before.exists_front
  obtain ⟨inner, rfl, framedInner⟩ := first.exists_front
  obtain ⟨literal, rfl, framedLiteral⟩ := form.exists_front
  obtain ⟨gap, rfl, framedGap⟩ := comma.exists_front
  refine ⟨outer ++ '[' :: (inner ++ '"' :: (literal ++ (gap ++ [',']))),
    { Draft.empty with name? := some name }, by simp, fun other opens => ?_⟩
  have split : outer ++ '[' :: (inner ++ '"' :: (literal ++ (gap ++ [',']))) ++ other =
      outer ++ '[' :: (inner ++ '"' :: (literal ++ (gap ++ ',' :: other))) := by simp
  have blanks : Blanks (inner ++ '"' :: (literal ++ (gap ++ ',' :: other)))
      ('"' :: (literal ++ (gap ++ ',' :: other))) := framedInner _
  have read : heldValue .empty .name (inner ++ '"' :: (literal ++ (gap ++ ',' :: other))) =
      .ok ({ Draft.empty with name? := some name }, gap ++ ',' :: other) :=
    map_eq_ok_iff.mpr ⟨name, nameValue_eq_ok_iff.mpr ⟨_, blanks, framedLiteral _⟩, rfl⟩
  rw [split, wholeDocument_of_blanks (framedOuter _),
    wholeDocument_of_opens ⟨_, _, blanks, rfl, by decide⟩, bind_eq_of_ok read]
  exact bind_eq_of_eq (furtherElement_of_comma (framedGap _) opens)

theorem heldValue_name_bind (draft : Draft) (onward : Draft → Reader Registry) :
    heldValue draft .name >>= onward =
      nameValue >>= fun name => onward { draft with name? := some name } :=
  bind_map_left _ _ _

theorem heldValue_bindings_bind (draft : Draft) (onward : Draft → Reader Registry) :
    heldValue draft .bindings >>= onward =
      bindingsValue >>= fun table => onward { draft with bindings? := some table } :=
  bind_map_left _ _ _

theorem Opens.of_blanks {middle : List Char} (blanks : Blanks text middle) (opens : Opens middle) :
    Opens text := by
  obtain ⟨first, more, blanks', visible, another⟩ := opens
  exact ⟨first, more, blanks.trans blanks', visible, another⟩

/-- What follows the name of a document: it is kept, and the document can be ended. -/
structure Names (onward : String → Reader Registry) : Prop where
  held : ∀ {name text registry rest}, onward name text = .ok (registry, rest) →
    registry.name = name
  ends : ∃ ending, ∀ name, ∃ registry, onward name ending = .ok (registry, [])

theorem names_list (draft : Draft) :
    Names fun name => furtherElement { draft with name? := some name } >>= closing where
  held success := by
    obtain ⟨_, _, read, success⟩ := bind_eq_ok success
    obtain ⟨_, _, _, success⟩ := bind_eq_ok success
    obtain ⟨_, _, _, success⟩ := bind_eq_ok success
    obtain ⟨rfl, _⟩ := pure_eq_ok success
    obtain ⟨more, _, _, read⟩ := bind_eq_ok read
    cases more with
    | false =>
        obtain ⟨rfl, _⟩ := pure_eq_ok read
        rfl
    | true =>
        obtain ⟨_, _, rfl⟩ := map_eq_ok_iff.mp read
        rfl
  ends := by
    refine ⟨[']'], fun name => ⟨{ draft with name? := some name }.registry, ?_⟩⟩
    rw [bind_eq_of_ok (furtherElement_of_close .none)]
    exact closing_of_close .none

theorem names_object (draft : Draft) :
    Names fun name => furtherMembers { draft with name? := some name } where
  held success := by
    obtain ⟨_, _, read, success⟩ := bind_eq_ok success
    obtain ⟨_, _, _, success⟩ := bind_eq_ok success
    obtain ⟨rfl, _⟩ := pure_eq_ok success
    obtain ⟨_, _, folded⟩ := memberRun_sound documentLaw read
    obtain ⟨_, _, rfl⟩ := accept_fold_iff.mp folded
    rfl
  ends := ⟨['}'], fun _ => ⟨_, furtherMembers_of_close .none⟩⟩

/-- Behind a front up to the name, the name is read and the document goes on. -/
theorem nameValue_of_front (front : Front text .name rest) :
    ∃ used onward, text = used ++ rest ∧ Names onward ∧ ∀ other, Opens other →
      wholeDocument (used ++ other) = (nameValue >>= onward) other := by
  cases front with
  | nameMember before leading fresh unrepeated key space =>
      obtain ⟨gap, rfl, framed⟩ := space.exists_front
      obtain ⟨used, draft, rfl, passes⟩ := heldValue_of_member before leading unrepeated
        (unnamed_of_fresh fresh) key
      refine ⟨used ++ gap, _, by simp, names_object draft, fun other _ => ?_⟩
      rw [List.append_assoc, passes, ← heldValue_name_bind]
      exact bind_eq_of_eq (heldValue_of_blanks draft .name (framed other))
  | nameElement before first =>
      obtain ⟨outer, rfl, framedOuter⟩ := before.exists_front
      obtain ⟨inner, rfl, framedInner⟩ := first.exists_front
      refine ⟨outer ++ '[' :: inner, _, by simp, names_list .empty, fun other opens => ?_⟩
      rw [List.append_assoc, List.cons_append, wholeDocument_of_blanks (framedOuter _),
        wholeDocument_of_opens (opens.of_blanks (framedInner other)),
        bind_eq_of_eq (heldValue_of_blanks .empty .name (framedInner other)), heldValue_name_bind]

/-- Behind a front up to the bindings, the bindings are read and the document goes on. -/
theorem bindingsValue_of_front (front : Front text .bindings rest) :
    ∃ used onward, text = used ++ rest ∧ Finishes onward ∧ ∀ other, Opens other →
      wholeDocument (used ++ other) = (bindingsValue >>= onward) other := by
  cases front with
  | bindingsMember before leading fresh unrepeated key space =>
      obtain ⟨gap, rfl, framed⟩ := space.exists_front
      obtain ⟨used, draft, rfl, passes⟩ := heldValue_of_member before leading unrepeated
        (unbound_of_fresh fresh) key
      refine ⟨used ++ gap, _, by simp, finishes_object draft, fun other _ => ?_⟩
      rw [List.append_assoc, passes, ← heldValue_bindings_bind]
      exact bind_eq_of_eq (heldValue_of_blanks draft .bindings (framed other))
  | bindingsElement before first form comma space =>
      obtain ⟨gap, rfl, framed⟩ := space.exists_front
      obtain ⟨used, draft, rfl, passes⟩ := heldValue_of_element before first form comma
      refine ⟨used ++ gap, _, by simp, finishes_list draft, fun other opens => ?_⟩
      rw [List.append_assoc, passes _ (opens.of_blanks (framed other)), ← heldValue_bindings_bind]
      exact bind_eq_of_eq (heldValue_of_blanks draft .bindings (framed other))

/-- What is read behind the name of a binding: its code, the other bindings, and the rest of the
document. -/
def behindName (before : List (String × UInt32)) (onward : Table UInt32 → Reader Registry)
    (name : String) : Reader Registry :=
  bindingMember name (Table.ofList before) >>=
    run (memberStep bindingMember) (memberStep_progresses bindingMember_keeps) >>= onward

/-- Behind the first bindings and the quote that opens the name of a further one, its name is read
and the document goes on. -/
theorem bindingName_of_front (front : Front text .bindings ('{' :: members))
    (leading : Leading Binding members bindings last) (opening : Blanks last ('"' :: spelled)) :
    ∃ used onward, text = used ++ spelled ∧ Finishes onward ∧ ∀ other,
      wholeDocument (used ++ other) = (literal >>= behindName bindings onward) other := by
  obtain ⟨outer, onward, rfl, finishes, passes⟩ := bindingsValue_of_front front
  obtain ⟨used, rfl, inside⟩ := foldMembers_of_opening bindingMember_keeps bindingLaw
    (fun name table => (bindingMember_orderly name table : Orderly Delimited Never _).toSequential)
    leading (foldlM_insert .empty bindings) opening
  refine ⟨outer ++ '{' :: used, onward, by simp, finishes, fun other => ?_⟩
  have entered : bindingsValue ('{' :: (used ++ other)) =
      foldMembers bindingMember bindingMember_keeps .empty (used ++ other) := rfl
  rw [List.append_assoc, List.cons_append, passes _ ⟨_, _, .none, rfl, by decide⟩,
    bind_eq_of_eq (entered.trans (inside _)), bind_assoc]
  rfl

/-- What is read behind a code: the other bindings, and the rest of the document. -/
def behindCode (before : List (String × UInt32)) (name : String)
    (onward : Table UInt32 → Reader Registry) (code : UInt32) : Reader Registry :=
  run (memberStep bindingMember) (memberStep_progresses bindingMember_keeps)
    ((Table.ofList before).insert name code) >>= onward

theorem behindName_eq (name : String) (onward : Table UInt32 → Reader Registry) :
    behindName bindings onward name =
      colon >>= fun _ => codeValue >>= behindCode bindings name onward := by
  simp only [behindName, bindingMember, bind_assoc, pure_bind]
  rfl

/-- Behind the first bindings and the name of a further one, its code is read and the document goes
on. -/
theorem codeValue_of_front (front : Front text .bindings ('{' :: members))
    (leading : Leading Binding members bindings last) (key : Key last name separated) :
    ∃ used onward, text = used ++ separated ∧ Finishes onward ∧ ∀ other,
      wholeDocument (used ++ other) = (codeValue >>= behindCode bindings name onward) other := by
  obtain ⟨opening, form, around⟩ := key
  obtain ⟨outer, onward, rfl, finishes, passes⟩ := bindingName_of_front front leading opening
  obtain ⟨inner, rfl, framed⟩ := form.exists_front
  obtain ⟨gap, rfl, separates⟩ :=
    colon_of_blanks around (codeValue >>= behindCode bindings name onward)
  refine ⟨outer ++ (inner ++ gap), onward, by simp, finishes, fun other => ?_⟩
  have read := literal_eq_ok_iff.mpr (framed (gap ++ other))
  rw [List.append_assoc, List.append_assoc, passes, bind_eq_of_ok read, behindName_eq, separates]

end GraphicsProfile.Document
