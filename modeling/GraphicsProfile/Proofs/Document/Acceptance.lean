import GraphicsProfile.Proofs.Document.Fields
import GraphicsProfile.Proofs.Registries
import GraphicsProfile.Registry.Loading

namespace GraphicsProfile.Document

open Grammar

variable {text behind rest : List Char} {draft final : Draft} {registry : Registry}

/-- The names that a draft holds and that further members contribute. -/
def Draft.names (draft : Draft) (contributions : List Contribution) : List String :=
  draft.name?.toList ++ contributions.filterMap Contribution.name?

/-- The tables that a draft holds and that further members contribute. -/
def Draft.tables (draft : Draft) (contributions : List Contribution) : List (Table UInt32) :=
  draft.bindings?.toList ++ (contributions.filterMap Contribution.bindings?).map Table.ofList

theorem accept_cases (draft : Draft) (contribution : Contribution) :
    (∃ next, draft.accept contribution = some next ∧ ∀ later,
      next.names later = draft.names (contribution :: later) ∧
        next.tables later = draft.tables (contribution :: later)) ∨
    (draft.accept contribution = none ∧ ∀ later,
      1 < (draft.names (contribution :: later)).length ∨
        1 < (draft.tables (contribution :: later)).length) := by
  obtain ⟨name?, bindings?⟩ := draft
  cases contribution with
  | name name =>
      cases name? with
      | none => exact .inl ⟨_, rfl, fun _ => ⟨rfl, rfl⟩⟩
      | some held =>
          refine .inr ⟨rfl, fun later => .inl ?_⟩
          simp [Draft.names, Contribution.name?]
  | bindings bindings =>
      cases bindings? with
      | none => exact .inl ⟨_, rfl, fun _ => ⟨rfl, rfl⟩⟩
      | some held =>
          refine .inr ⟨rfl, fun later => .inr ?_⟩
          simp [Draft.tables, Contribution.bindings?]
  | nothing => exact .inl ⟨_, rfl, fun _ => ⟨rfl, rfl⟩⟩

/-- Members are accepted in turn as long as no field comes twice, and the order in which they come
does not matter. -/
theorem accept_fold_iff {contributions : List Contribution} :
    contributions.foldlM Draft.accept draft = some final ↔
      (draft.names contributions).length ≤ 1 ∧ (draft.tables contributions).length ≤ 1 ∧
        final = ⟨(draft.names contributions).head?, (draft.tables contributions).head?⟩ := by
  induction contributions generalizing draft with
  | nil =>
      obtain ⟨name?, bindings?⟩ := draft
      cases name? <;> cases bindings? <;> simp [Draft.names, Draft.tables, eq_comm]
  | cons contribution contributions ih =>
      rw [List.foldlM_cons]
      rcases accept_cases draft contribution with ⟨next, accepted, same⟩ | ⟨refused, repeated⟩
      · obtain ⟨names, tables⟩ := same contributions
        rw [accepted, ← names, ← tables]
        exact ih
      · have twice := repeated contributions
        simp only [refused, Option.bind_eq_bind, Option.bind_none, reduceCtorEq, false_iff]
        omega

theorem describedRegistry_eq (name : String) (bindings : List (String × UInt32)) :
    describedRegistry name bindings = ⟨name, Table.ofList bindings⟩ :=
  Registry.foldl_bind (.named name) bindings

/-- The registry of the fields that the members of an object contribute. -/
theorem accepted_registry {contributions : List Contribution} :
    Draft.registry ⟨(Draft.empty.names contributions).head?,
        (Draft.empty.tables contributions).head?⟩ =
      describedRegistry ((contributions.findSome? Contribution.name?).getD "")
        ((contributions.findSome? Contribution.bindings?).getD []) := by
  rw [describedRegistry_eq]
  simp only [Draft.registry, Draft.names, Draft.tables, Draft.empty, Option.toList_none,
    List.nil_append, List.head?_map, List.head?_filterMap]
  cases contributions.findSome? Contribution.bindings? <;> rfl

theorem firstElement_eq_false_iff :
    firstElement text = .ok (false, behind) ↔
      ∃ rest, Blanks text (']' :: rest) ∧ behind = ']' :: rest := by
  refine ⟨fun success => ?_, fun given => ?_⟩
  · simp only [firstElement] at success
    split at success
    · cases success
    · rename_i rest found
      cases success
      exact ⟨rest, (skipBlanks_eq_cons_iff.mp found).1, rfl⟩
    · cases success
  · obtain ⟨rest, blanks, rfl⟩ := given
    simp only [firstElement, skipBlanks_eq_cons_iff.mpr ⟨blanks, rfl⟩]

theorem firstElement_sound (success : firstElement text = .ok (true, behind)) :
    Blanks text behind := by
  simp only [firstElement] at success
  split at success
  · cases success
  · cases success
  · cases success
    exact blanks_skipBlanks text

theorem firstElement_complete {opening : Char} (blanks : Blanks text (opening :: rest))
    (visible : isBlank opening = false) (another : opening ≠ ']') :
    firstElement text = .ok (true, opening :: rest) := by
  simp only [firstElement, skipBlanks_eq_cons_iff.mpr ⟨blanks, visible⟩]
  split
  · contradiction
  · rename_i same
    cases same
    contradiction
  · rfl

theorem nextElement_eq_false_iff :
    nextElement text = .ok (false, behind) ↔
      ∃ rest, Blanks text (']' :: rest) ∧ behind = ']' :: rest := by
  refine ⟨fun success => ?_, fun given => ?_⟩
  · simp only [nextElement] at success
    split at success
    · cases success
    · rename_i rest found
      cases success
      exact ⟨rest, (skipBlanks_eq_cons_iff.mp found).1, rfl⟩
    · split at success <;> cases success
    · cases success
  · obtain ⟨rest, blanks, rfl⟩ := given
    simp only [nextElement, skipBlanks_eq_cons_iff.mpr ⟨blanks, rfl⟩]

theorem nextElement_sound (success : nextElement text = .ok (true, behind)) :
    ∃ later, Blanks text (',' :: later) ∧ Blanks later behind := by
  simp only [nextElement] at success
  split at success
  · cases success
  · cases success
  · rename_i later found
    have comma := (skipBlanks_eq_cons_iff.mp found).1
    split at success
    · cases success
    · cases success
    · cases success
      exact ⟨later, comma, blanks_skipBlanks later⟩
  · cases success

theorem nextElement_complete {later : List Char} {opening : Char}
    (comma : Blanks text (',' :: later)) (blanks : Blanks later (opening :: rest))
    (visible : isBlank opening = false) (another : opening ≠ ']') :
    nextElement text = .ok (true, opening :: rest) := by
  simp only [nextElement, skipBlanks_eq_cons_iff.mpr ⟨comma, rfl⟩,
    skipBlanks_eq_cons_iff.mpr ⟨blanks, visible⟩]
  split
  · contradiction
  · rename_i same
    cases same
    contradiction
  · rfl

theorem closeList_eq_ok_iff : closeList text = .ok ((), rest) ↔ Blanks text (']' :: rest) := by
  refine ⟨fun success => ?_, fun blanks => ?_⟩
  · simp only [closeList] at success
    split at success
    · cases success
    · rename_i found
      cases success
      exact (skipBlanks_eq_cons_iff.mp found).1
    · split at success <;> cases success
    · cases success
  · simp only [closeList, skipBlanks_eq_cons_iff.mpr ⟨blanks, rfl⟩]

/-- A list of fields through its closing bracket, and the draft that it fills. -/
inductive Listed : List Char → Draft → List Char → Prop where
  | nothing {text rest : List Char} (close : Blanks text (']' :: rest)) : Listed text .empty rest
  | name {text spelled behind rest : List Char} {name : String}
      (first : Blanks text ('"' :: spelled)) (form : Literal spelled name.toList behind)
      (close : Blanks behind (']' :: rest)) : Listed text ⟨some name, none⟩ rest
  | bindings {text spelled behindName second members behind rest : List Char} {name : String}
      {bindings : List (String × UInt32)} (first : Blanks text ('"' :: spelled))
      (form : Literal spelled name.toList behindName) (comma : Blanks behindName (',' :: second))
      (opening : Blanks second ('{' :: members))
      (enclosed : Enclosed Binding members bindings behind) (close : Blanks behind (']' :: rest)) :
      Listed text ⟨some name, some (Table.ofList bindings)⟩ rest

theorem listed_sound (read : documentElements text = .ok (draft, behind))
    (close : Blanks behind (']' :: rest)) : Listed text draft rest := by
  obtain ⟨more, between, first, read⟩ := Reader.bind_eq_ok read
  cases more with
  | false =>
      obtain ⟨rfl, rfl⟩ := Reader.pure_eq_ok read
      obtain ⟨ending, blanks, rfl⟩ := firstElement_eq_false_iff.mp first
      exact .nothing (blanks.trans close)
  | true =>
      have blanks := firstElement_sound first
      obtain ⟨name, behindName, named, read⟩ := Reader.bind_eq_ok read
      obtain ⟨spelled, space, form⟩ := nameValue_eq_ok_iff.mp named
      obtain ⟨more, between, next, read⟩ := Reader.bind_eq_ok read
      cases more with
      | false =>
          obtain ⟨rfl, rfl⟩ := Reader.pure_eq_ok read
          obtain ⟨ending, blanks', rfl⟩ := nextElement_eq_false_iff.mp next
          exact .name (blanks.trans space) form (blanks'.trans close)
      | true =>
          obtain ⟨later, comma, gap⟩ := nextElement_sound next
          obtain ⟨table, ending, bound, read⟩ := Reader.bind_eq_ok read
          obtain ⟨rfl, rfl⟩ := Reader.pure_eq_ok read
          obtain ⟨members, bindings, opening, enclosed, rfl⟩ := bindingsValue_eq_ok_iff.mp bound
          exact .bindings (blanks.trans space) form comma (gap.trans opening) enclosed close

theorem listed_complete (listed : Listed text draft rest) :
    ∃ behind, documentElements text = .ok (draft, behind) ∧ Blanks behind (']' :: rest) := by
  cases listed with
  | nothing close =>
      have ended := firstElement_eq_false_iff.mpr ⟨_, close, rfl⟩
      exact ⟨_, Reader.bind_eq_ok_iff.mpr ⟨_, _, ended, rfl⟩, .none⟩
  | name first form close =>
      have started := firstElement_complete first rfl (by decide)
      have named := nameValue_eq_ok_iff.mpr ⟨_, .none, form⟩
      have ended := nextElement_eq_false_iff.mpr ⟨_, close, rfl⟩
      refine ⟨_, Reader.bind_eq_ok_iff.mpr ⟨_, _, started, ?_⟩, .none⟩
      refine Reader.bind_eq_ok_iff.mpr ⟨_, _, named, ?_⟩
      exact Reader.bind_eq_ok_iff.mpr ⟨_, _, ended, rfl⟩
  | bindings first form comma opening enclosed close =>
      have started := firstElement_complete first rfl (by decide)
      have named := nameValue_eq_ok_iff.mpr ⟨_, .none, form⟩
      have continued := nextElement_complete comma opening rfl (by decide)
      have bound := bindingsValue_eq_ok_iff.mpr ⟨_, _, .none, enclosed, rfl⟩
      refine ⟨_, Reader.bind_eq_ok_iff.mpr ⟨_, _, started, ?_⟩, close⟩
      refine Reader.bind_eq_ok_iff.mpr ⟨_, _, named, ?_⟩
      refine Reader.bind_eq_ok_iff.mpr ⟨_, _, continued, ?_⟩
      exact Reader.bind_eq_ok_iff.mpr ⟨_, _, bound, rfl⟩

theorem documentValue_sound (success : documentValue text = .ok (draft, rest)) :
    (∃ members contributions, Blanks text ('{' :: members) ∧
      Enclosed Member members contributions rest ∧
      contributions.foldlM Draft.accept .empty = some draft) ∨
    ∃ elements, Blanks text ('[' :: elements) ∧ Listed elements draft rest := by
  simp only [documentValue] at success
  split at success
  · rename_i members found
    obtain ⟨contributions, form, folded⟩ := (foldMembers_eq_ok_iff documentLaw).mp success
    exact .inl ⟨members, contributions, (skipBlanks_eq_cons_iff.mp found).1, form, folded⟩
  · rename_i elements found
    obtain ⟨⟨held, behind⟩, read, success⟩ := Reader.except_bind_eq_ok success
    obtain ⟨⟨_, ending⟩, closed, same⟩ := Reader.except_bind_eq_ok success
    cases same
    exact .inr ⟨elements, (skipBlanks_eq_cons_iff.mp found).1,
      listed_sound read (closeList_eq_ok_iff.mp closed)⟩
  · exact absurd success (mismatch_refuses _ _ _)

theorem documentValue_object {members : List Char} {contributions : List Contribution}
    (before : Blanks text ('{' :: members)) (form : Enclosed Member members contributions rest)
    (folded : contributions.foldlM Draft.accept .empty = some draft) :
    documentValue text = .ok (draft, rest) := by
  simp only [documentValue, skipBlanks_eq_cons_iff.mpr ⟨before, rfl⟩]
  exact (foldMembers_eq_ok_iff documentLaw).mpr ⟨contributions, form, folded⟩

theorem documentValue_list {elements : List Char} (before : Blanks text ('[' :: elements))
    (listed : Listed elements draft rest) : documentValue text = .ok (draft, rest) := by
  obtain ⟨behind, read, close⟩ := listed_complete listed
  simp only [documentValue, skipBlanks_eq_cons_iff.mpr ⟨before, rfl⟩]
  refine Reader.except_bind_eq_ok_iff.mpr ⟨_, read, ?_⟩
  exact Reader.except_bind_eq_ok_iff.mpr ⟨_, closeList_eq_ok_iff.mpr close, rfl⟩

theorem documentEnd_eq_ok_iff : documentEnd text = .ok ((), rest) ↔ Blanks text [] ∧ rest = [] := by
  refine ⟨fun success => ?_, fun given => ?_⟩
  · simp only [documentEnd] at success
    split at success
    · rename_i found
      cases success
      exact ⟨skipBlanks_eq_nil_iff.mp found, rfl⟩
    · cases success
  · obtain ⟨blanks, rfl⟩ := given
    simp only [documentEnd, skipBlanks_eq_nil_iff.mpr blanks]

theorem readRegistry_eq_ok_iff_draft :
    readRegistry text = .ok registry ↔
      ∃ draft behind, documentValue text = .ok (draft, behind) ∧ Blanks behind [] ∧
        draft.registry = registry := by
  refine ⟨fun success => ?_, fun given => ?_⟩
  · simp only [readRegistry] at success
    cases whole : wholeDocument text with
    | error fault =>
        rw [whole] at success
        cases success
    | ok result =>
        rw [whole] at success
        cases success
        obtain ⟨draft, behind, read, whole⟩ := Reader.bind_eq_ok whole
        obtain ⟨_, nothing, ended, whole⟩ := Reader.bind_eq_ok whole
        obtain ⟨described, _⟩ := Reader.pure_eq_ok whole
        exact ⟨draft, behind, read, (documentEnd_eq_ok_iff.mp ended).1, described⟩
  · obtain ⟨draft, behind, read, after, rfl⟩ := given
    have ended := documentEnd_eq_ok_iff.mpr ⟨after, rfl⟩
    have whole : wholeDocument text = .ok (draft.registry, []) := by
      refine Reader.bind_eq_ok_iff.mpr ⟨_, _, read, ?_⟩
      exact Reader.bind_eq_ok_iff.mpr ⟨_, _, ended, rfl⟩
    rw [readRegistry, whole]
    rfl

theorem filled_registry (name : String) (bindings : List (String × UInt32)) :
    Draft.registry ⟨some name, some (Table.ofList bindings)⟩ = describedRegistry name bindings :=
  (describedRegistry_eq name bindings).symm

theorem empty_names_tables {contributions : List Contribution} :
    ((Draft.empty.names contributions).length ≤ 1 ∧ (Draft.empty.tables contributions).length ≤ 1) ↔
      Unrepeated contributions := by
  simp only [Draft.names, Draft.tables, Draft.empty, Option.toList_none, List.nil_append,
    List.length_map, Unrepeated]

theorem describes_of_readRegistry (success : readRegistry text = .ok registry) :
    Describes text registry := by
  obtain ⟨draft, behind, read, after, rfl⟩ := readRegistry_eq_ok_iff_draft.mp success
  rcases documentValue_sound read with
    ⟨members, contributions, before, form, folded⟩ | ⟨elements, before, listed⟩
  · obtain ⟨names, tables, rfl⟩ := accept_fold_iff.mp folded
    rw [accepted_registry]
    exact ⟨_, _, .object before form after (empty_names_tables.mp ⟨names, tables⟩), rfl⟩
  · cases listed with
    | nothing close => exact ⟨_, _, .emptyList before close after, rfl⟩
    | name first form close => exact ⟨_, _, .nameList before first form close after, rfl⟩
    | bindings first form comma opening enclosed close =>
        rw [filled_registry]
        exact ⟨_, _, .fullList before first form comma opening enclosed close after, rfl⟩

theorem readRegistry_of_describes (describes : Describes text registry) :
    readRegistry text = .ok registry := by
  obtain ⟨name, bindings, gives, rfl⟩ := describes
  apply readRegistry_eq_ok_iff_draft.mpr
  cases gives with
  | object before form after unrepeated =>
      obtain ⟨names, tables⟩ := empty_names_tables.mpr unrepeated
      have folded := accept_fold_iff.mpr ⟨names, tables, rfl⟩
      exact ⟨_, _, documentValue_object before form folded, after, accepted_registry⟩
  | emptyList before close after =>
      exact ⟨_, _, documentValue_list before (.nothing close), after, rfl⟩
  | nameList before first spelled close after =>
      exact ⟨_, _, documentValue_list before (.name first spelled close), after, rfl⟩
  | fullList before first spelled comma opening form close after =>
      have listed := Listed.bindings first spelled comma opening form close
      exact ⟨_, _, documentValue_list before listed, after, filled_registry _ _⟩

theorem readRegistry_eq_ok_iff : readRegistry text = .ok registry ↔ Describes text registry :=
  ⟨describes_of_readRegistry, readRegistry_of_describes⟩

theorem describedRegistry_name (name : String) (bindings : List (String × UInt32)) :
    (describedRegistry name bindings).name = name := by
  rw [describedRegistry_eq]

theorem describedRegistry_find? (name : String) (bindings : List (String × UInt32)) (key : String) :
    (describedRegistry name bindings).find? key = Table.lastWritten? bindings key := by
  rw [describedRegistry_eq]
  exact Table.find?_ofList bindings

theorem load_of_read {document : String} (read : readRegistry document.toList = .ok registry) :
    Registry.load document = ⟨.ok registry, [.documentLoaded registry.name registry.size]⟩ := by
  rw [Registry.load, Registry.ofDocument, read]
  rfl

theorem load_of_fault {document : String} {fault : Fault}
    (refused : readRegistry document.toList = .error fault) :
    Registry.load document = ⟨.error (.badDocument (fault.within document.toList)), []⟩ := by
  rw [Registry.load, Registry.ofDocument, refused]
  rfl

theorem load_eq_ok_iff {document : String} :
    (Registry.load document).value = .ok registry ↔ Describes document.toList registry := by
  rw [← readRegistry_eq_ok_iff]
  cases read : readRegistry document.toList with
  | error fault => simp [load_of_fault read]
  | ok held => simp [load_of_read read]

theorem load_refused_iff {document : String} :
    (∃ error, Registry.load document = ⟨.error (.badDocument error), []⟩) ↔
      ∀ registry, ¬ Describes document.toList registry := by
  simp only [← readRegistry_eq_ok_iff]
  cases read : readRegistry document.toList with
  | error fault => simp [load_of_fault read]
  | ok held => simp [load_of_read read]

/-- A document is accepted if and only if the grammar finds a name and bindings in it. The registry
has that name and, for each key, the code that is bound to it last. Any other document is
refused. -/
theorem load_decides_grammar (document : String) :
    (∀ registry, (Registry.load document).value = .ok registry ↔
      ∃ name bindings, Gives document.toList name bindings ∧
        registry = describedRegistry name bindings ∧ registry.name = name ∧
        ∀ key, registry.find? key = Table.lastWritten? bindings key) ∧
    ((∃ error, Registry.load document = ⟨.error (.badDocument error), []⟩) ↔
      ∀ name bindings, ¬ Gives document.toList name bindings) := by
  refine ⟨fun registry => load_eq_ok_iff.trans ⟨?_, ?_⟩, load_refused_iff.trans ⟨?_, ?_⟩⟩
  · intro given
    obtain ⟨name, bindings, gives, rfl⟩ := given
    exact ⟨name, bindings, gives, rfl, describedRegistry_name name bindings,
      describedRegistry_find? name bindings⟩
  · intro given
    obtain ⟨name, bindings, gives, described, _, _⟩ := given
    exact ⟨name, bindings, gives, described⟩
  · exact fun refused name bindings gives => refused _ ⟨name, bindings, gives, rfl⟩
  · rintro refused registry ⟨name, bindings, gives, _⟩
    exact refused name bindings gives

theorem load_decides_grammar_escaped :
    (Registry.load
      "\x7b\"n\\u0061me\":\"\\u00e9\",\"enums\":\x7b\"a\":1,\"\\u0061\":5126\x7d\x7d").value =
        .ok ((Registry.named "é").bind "a" 5126) ∧
    (∃ bindings,
      Gives
          "\x7b\"n\\u0061me\":\"\\u00e9\",\"enums\":\x7b\"a\":1,\"\\u0061\":5126\x7d\x7d".toList
          "é" bindings ∧ Table.lastWritten? bindings "a" = some 5126) ∧
    ∀ name bindings, ¬ Gives "[\"\",\x7b\"a\":4294967296\x7d]".toList name bindings := by
  have accepted :
      (Registry.load
        "\x7b\"n\\u0061me\":\"\\u00e9\",\"enums\":\x7b\"a\":1,\"\\u0061\":5126\x7d\x7d").value =
          .ok ((Registry.named "é").bind "a" 5126) := by with_unfolding_all rfl
  have refused : Registry.load "[\"\",\x7b\"a\":4294967296\x7d]" =
      ⟨.error (.badDocument ⟨.codeOutOfRange 4294967296, ⟨1, 19⟩⟩), []⟩ := by
    with_unfolding_all rfl
  obtain ⟨name, bindings, gives, _, named, bound⟩ := ((load_decides_grammar _).1 _).mp accepted
  cases named
  exact ⟨accepted, ⟨bindings, gives, (bound "a").symm⟩,
    (load_decides_grammar _).2.mp ⟨_, refused⟩⟩

end GraphicsProfile.Document
