import GraphicsProfile.Proofs.Document.Sequential.Documents
import GraphicsProfile.Proofs.Text.Positions
import Mathlib.Data.Finset.Card

namespace GraphicsProfile.Document

open Grammar Reader Text

variable {text other rest : List Char} {left right char : Char} {fault : Fault}

theorem first_eq_of_take {count : Nat}
    (same : (bytes (right :: other)).take (count + 1) = (bytes (left :: text)).take (count + 1)) :
    (String.utf8EncodeChar left).head? = (String.utf8EncodeChar right).head? := by
  obtain ⟨byte, later, encoded, _⟩ := utf8EncodeChar_first left
  obtain ⟨byte', later', encoded', _⟩ := utf8EncodeChar_first right
  rw [bytes_cons, bytes_cons, encoded, encoded'] at same
  rw [encoded, encoded']
  simp only [List.cons_append, List.take_succ_cons, List.cons.injEq] at same
  exact congrArg some same.1.symm

/-- The first byte of a character tells it up to characters that are alike. -/
theorem alike_of_first
    (first : (String.utf8EncodeChar left).head? = (String.utf8EncodeChar right).head?) :
    Alike left right := by
  have size := utf8Size_of_first first
  by_cases narrow : left.utf8Size = 1
  · refine .inl (eq_of_utf8EncodeChar ?_)
    rw [String.utf8EncodeChar_eq_singleton narrow,
      String.utf8EncodeChar_eq_singleton (size ▸ narrow)] at first ⊢
    exact congrArg (· :: []) (Option.some.inj first)
  · have := left.utf8Size_pos
    exact .inr ⟨size, by omega⟩

/-- Texts whose bytes are the same through a certain one agree up to the character that has it. -/
theorem agree_of_bytes {offset : Nat} (within : offset < byteSize text)
    (same : (bytes other).take (offset + 1) = (bytes text).take (offset + 1)) :
    ∃ behind behind', Agree behind behind' text other ∧ behind + offset < byteSize text := by
  induction text generalizing other offset with
  | nil => exact absurd within (Nat.not_lt_zero offset)
  | cons left rest ih =>
      have whole := byteSize_cons left rest
      cases other with
      | nil =>
          have sizes := congrArg List.length same
          simp only [List.length_take, length_bytes, byteSize_nil] at sizes
          omega
      | cons right rest' =>
          have first := first_eq_of_take same
          have size := utf8Size_of_first first
          by_cases last : offset < left.utf8Size
          · exact ⟨_, _, .last (alike_of_first first), by omega⟩
          · have onward : offset + 1 - left.utf8Size = offset - left.utf8Size + 1 := by omega
            rw [take_bytes_cons (by omega), take_bytes_cons (by omega), ← size, onward] at same
            obtain ⟨front, back⟩ := List.append_inj same (by
              rw [String.length_utf8EncodeChar, String.length_utf8EncodeChar, size])
            obtain ⟨behind, behind', agree, place⟩ := ih (by omega) back
            cases eq_of_utf8EncodeChar front
            exact ⟨behind, behind', .more agree, by omega⟩

theorem readRegistry_eq_error_iff :
    readRegistry text = .error fault ↔ wholeDocument text = .error fault := by
  rw [readRegistry]
  cases wholeDocument text <;> simp [Except.map]

theorem load_value_eq_ok_iff {document : String} {registry : Registry} :
    (Registry.load document).value = .ok registry ↔ readRegistry document.toList = .ok registry :=
  load_eq_ok_iff.trans readRegistry_eq_ok_iff.symm

theorem load_eq_refused_iff {document : String} {error : DocumentError} :
    (Registry.load document).value = .error (.badDocument error) ↔
      ∃ fault, wholeDocument document.toList = .error fault ∧
        error = fault.within document.toList := by
  simp only [← readRegistry_eq_error_iff]
  cases read : readRegistry document.toList with
  | error fault => simp [load_of_fault read, eq_comm]
  | ok registry => simp [load_of_read read]

/-- The document is refused with the given message. -/
def RefusedWith (document message : String) : Prop :=
  ∃ error, Registry.load document = ⟨.error (.badDocument error), []⟩ ∧ error.message = message

/-- The place in front of what is left is behind what has been used. -/
theorem within_before {cause : Cause} {used left : List Char} (split : text = used ++ left) :
    (cause.before left).within text = ⟨cause, .after (bytes used)⟩ := by
  have place : byteSize text - byteSize left = (bytes used).length := by
    rw [split, byteSize_append, length_bytes]
    omega
  have front : (bytes text).take (bytes used).length = bytes used := by
    rw [split, bytes_append, List.take_left]
  simp only [Fault.within, Cause.before, place, front]

/-- A fault that is placed in front of the end of a text is found in every text that goes the same
way up to the byte behind that place. -/
theorem fault_local {offset : Nat} (stopped : wholeDocument text = .error fault)
    (place : byteSize text - fault.left = offset) (within : offset < byteSize text)
    (same : (bytes other).take (offset + 1) = (bytes text).take (offset + 1)) :
    ∃ left, wholeDocument other = .error ⟨fault.cause, left⟩ ∧ byteSize other - left = offset := by
  obtain ⟨behind, behind', agree, further⟩ := agree_of_bytes within same
  have size := agree.size
  obtain ⟨extra, split⟩ : ∃ extra, fault.left = extra + behind :=
    ⟨fault.left - behind, by omega⟩
  have placed : wholeDocument text = .error ⟨fault.cause, extra + behind⟩ := split ▸ stopped
  exact ⟨extra + behind', wholeDocument_orderly.fault agree placed (by omega), by omega⟩

/-- Nothing behind the place of an error decides about it, except the one byte that is looked at
there. -/
theorem load_refused_local {document other : String} {error : DocumentError} {offset : Nat}
    (refused : (Registry.load document).value = .error (.badDocument error))
    (place : error.position = .after ((bytes document.toList).take offset))
    (within : offset < byteSize document.toList)
    (same : (bytes other.toList).take (offset + 1) = (bytes document.toList).take (offset + 1)) :
    Registry.load other = ⟨.error (.badDocument error), []⟩ := by
  obtain ⟨fault, stopped, rfl⟩ := load_eq_refused_iff.mp refused
  have bound := wholeDocument_orderly.bounded stopped
  have length := length_bytes document.toList
  have reported : byteSize document.toList - fault.left = offset :=
    position_after_inj (by omega) (by omega) place
  obtain ⟨left, stopped', reported'⟩ := fault_local stopped reported within same
  rw [load_of_fault (readRegistry_eq_error_iff.mpr stopped')]
  have front : (bytes other.toList).take offset = (bytes document.toList).take offset := by
    have shorter := congrArg (List.take offset) same
    rwa [List.take_take, List.take_take, Nat.min_eq_left (Nat.le_succ offset)] at shorter
  simp only [Fault.within, reported, reported', front]

theorem load_refused_local_unread :
    Registry.load "[x], 5" = ⟨.error (.badDocument ⟨.expectedValue, ⟨1, 2⟩⟩), []⟩ := by
  have refused : (Registry.load "[x]").value =
      .error (.badDocument ⟨.expectedValue, ⟨1, 2⟩⟩) := rfl
  have place : (⟨1, 2⟩ : Position) = .after ((bytes "[x]".toList).take 2) := by decide
  exact load_refused_local refused place (by decide) (by decide)

theorem number_of_digit (decimal : char.isDigit = true) :
    ∃ value, number [char] = .ok (value, []) := by
  have form : Whole [char] [char] [] := .digits (.last decimal) fun _ => by simp_all
  have small : decimalValue [char] ≤ maxSignificand := by
    have value : decimalValue [char] = 0 * 10 + (char.val.toNat - 48) := rfl
    have limit : maxSignificand = 0xFFFFFFFFFFFFFFFF := rfl
    have nine : ('9' : Char).val.toNat = 57 := rfl
    simp only [Char.isDigit, Bool.and_eq_true, decide_eq_true_eq, UInt32.le_iff_toNat_le] at decimal
    omega
  exact ⟨_, number_code_complete form (fun _ member => by cases member) small⟩

theorem foundValue_of_one (noList : char ≠ '[') (noObject : char ≠ '{') :
    (∃ found, foundValue [char] = .ok (found, [])) ∨
      ∃ fault, foundValue [char] = .error fault ∧ fault.left < char.utf8Size := by
  have positive := char.utf8Size_pos
  by_cases special : char = '"' ∨ char = 'n' ∨ char = 't' ∨ char = 'f' ∨ char = '-'
  · obtain ⟨cause, wants, _⟩ := literal_wanting
    rcases special with rfl | rfl | rfl | rfl | rfl
    · have stopped : foundValue ['"'] = .error ⟨cause, 0⟩ := map_text.trans (by rw [wants]; rfl)
      exact .inr ⟨_, stopped, positive⟩
    all_goals exact .inr ⟨⟨.endOfValue, 0⟩, rfl, positive⟩
  · simp only [not_or] at special
    by_cases decimal : char.isDigit = true
    · obtain ⟨value, read⟩ := number_of_digit decimal
      exact .inl ⟨value.found, by simp [foundValue, special, startsNumber, decimal, read]⟩
    · refine .inr ⟨⟨.expectedValue, char.utf8Size - 1⟩, ?_, by dsimp only; omega⟩
      simp [foundValue, special, startsNumber, decimal, Cause.behindByte]

/-- A document of one character is refused behind its first byte at the earliest. -/
theorem documentValue_of_one (char : Char) :
    ∃ fault, documentValue [char] = .error fault ∧ fault.left < char.utf8Size := by
  have positive := char.utf8Size_pos
  by_cases blank : isBlank char = true
  · refine ⟨⟨.endOfValue, 0⟩, ?_, positive⟩
    simp only [documentValue, skipBlanks_of_blank blank]
    rfl
  · have here : skipBlanks [char] = [char] := skipBlanks_of_visible (Bool.eq_false_iff.mpr blank)
    by_cases brace : char = '{'
    · subst brace
      exact ⟨⟨.endOfObject, 0⟩, bind_eq_of_error rfl, positive⟩
    · by_cases bracket : char = '['
      · subst bracket
        exact ⟨⟨.endOfList, 0⟩, rfl, positive⟩
      · have refused : documentValue [char] = mismatch .document [char] := by
          simp [documentValue, here, brace, bracket]
        rw [refused]
        rcases foundValue_of_one bracket brace with ⟨found, read⟩ | ⟨fault, stopped, place⟩
        · exact ⟨_, bind_eq_of_ok read, positive⟩
        · exact ⟨_, bind_eq_of_error stopped, place⟩

/-- No error is reported in front of the first byte. A fault there would be found in the document
that consists of the first character alone. -/
theorem fault_behind_first (stopped : wholeDocument text = .error fault) (nonempty : text ≠ []) :
    fault.left < byteSize text := by
  refine Nat.lt_of_le_of_ne (wholeDocument_orderly.bounded stopped) fun early => ?_
  cases text with
  | nil => exact nonempty rfl
  | cons char rest =>
      obtain ⟨cause, left⟩ := fault
      dsimp only at early
      rw [early, byteSize_cons] at stopped
      have agree : Agree (byteSize rest) (byteSize []) (char :: rest) [char] := .last (.inl rfl)
      have alone := wholeDocument_orderly.fault agree stopped char.utf8Size_pos
      obtain ⟨fault, stopped, place⟩ := documentValue_of_one char
      have same := (bind_eq_of_error stopped).symm.trans alone
      cases same
      exact Nat.lt_irrefl _ place

theorem head?_append_of_head? {front back : String}
    (first : front.toList.head? = some char) : (front ++ back).toList.head? = some char := by
  rw [String.toList_append, List.head?_append, first]
  rfl

/-- Two letters that a description starts with tell what the cause is. -/
theorem description_head? (cause : Cause) :
    ∃ first, cause.description.toList.head? = some first ∧
      (first = 'E' → cause.category = .truncated) ∧
      (first = 'd' → ∃ field, cause = .duplicateField field) := by
  cases cause with
  | duplicateField field =>
      have first : "duplicate field `".toList.head? = some 'd' := by decide
      exact ⟨'d', head?_append_of_head? (head?_append_of_head? first),
        fun same => absurd same (by decide), fun _ => ⟨field, rfl⟩⟩
  | wrongType found place =>
      have first : "invalid type: ".toList.head? = some 'i' := by decide
      exact ⟨'i', head?_append_of_head? (head?_append_of_head? (head?_append_of_head? first)),
        fun same => absurd same (by decide), fun same => absurd same (by decide)⟩
  | codeOutOfRange value =>
      have first : "invalid value: ".toList.head? = some 'i' := by decide
      exact ⟨'i', head?_append_of_head? (head?_append_of_head? (head?_append_of_head? first)),
        fun same => absurd same (by decide), fun same => absurd same (by decide)⟩
  | endOfValue | endOfList | endOfObject | endOfString =>
      exact ⟨'E', rfl, fun _ => rfl, fun same => absurd same (by decide)⟩
  | _ =>
      exact ⟨_, rfl, fun same => absurd same (by decide), fun same => absurd same (by decide)⟩

theorem message_eq (error : DocumentError) :
    error.message = error.cause.description ++ (" at line " ++ (toString error.position.line ++
      (" column " ++ toString error.position.column))) := by
  simp only [DocumentError.message, String.append_assoc]

theorem head?_of_begins {error : DocumentError} {letters : String} {first letter : Char}
    (begins : letters.toList <+: error.message.toList)
    (initial : letters.toList.head? = some letter)
    (head : error.cause.description.toList.head? = some first) : first = letter := by
  obtain ⟨tail, split⟩ := begins
  have same := congrArg List.head? split
  rw [message_eq, head?_append_of_head? head, List.head?_append, initial] at same
  exact (Option.some.inj same).symm

theorem begins_of_truncated {cause : Cause} (truncated : cause.category = .truncated) :
    "EOF".toList <+: cause.description.toList := by
  cases cause <;> first | decide | contradiction

/-- The text of an error begins with these letters if and only if the document ended too early. -/
theorem truncated_iff_begins (error : DocumentError) :
    error.category = .truncated ↔ "EOF".toList <+: error.message.toList := by
  refine ⟨fun truncated => ?_, fun begins => ?_⟩
  · rw [message_eq, String.toList_append]
    exact (begins_of_truncated truncated).trans (List.prefix_append _ _)
  · obtain ⟨first, head, truncated, _⟩ := description_head? error.cause
    exact truncated (head?_of_begins begins (by decide) head)

theorem lastWritten?_isSome_iff {bindings : List (String × UInt32)} {name : String} :
    (Table.lastWritten? bindings name).isSome = true ↔ name ∈ bindings.map Prod.fst := by
  induction bindings with
  | nil => simp [Table.lastWritten?]
  | cons binding bindings ih =>
      rw [Table.lastWritten?_cons, Option.isSome_or, Bool.or_eq_true, ih, List.map_cons,
        List.mem_cons]
      by_cases same : name = binding.1 <;> simp [same]

/-- A registry holds a code for each name that has been bound, however often. -/
theorem describedRegistry_size (name : String) (bindings : List (String × UInt32)) :
    (describedRegistry name bindings).size = (bindings.map Prod.fst).toFinset.card := by
  have same : (describedRegistry name bindings).names.toFinset =
      (bindings.map Prod.fst).toFinset := by
    ext key
    rw [List.mem_toFinset, List.mem_toFinset, ← lastWritten?_isSome_iff,
      ← describedRegistry_find? name]
    exact Table.mem_names_iff
  have distinct : (describedRegistry name bindings).names.Nodup := Table.names_nodup _
  rw [← same, List.toFinset_card_of_nodup distinct]
  exact Table.size_eq_length_names _

/-- Every text is either loaded, and the log says what has been loaded, or it is refused with a
place in it and the log says nothing. -/
theorem load_reports (document : String) :
    (∃ registry event, Registry.load document = ⟨.ok registry, [event]⟩ ∧
      event.level.label = "DEBUG" ∧ event.message = "loaded profile document" ∧
      event.profile = registry.name ∧
      (∃ name bindings, Gives document.toList name bindings) ∧
      ∀ name bindings, Gives document.toList name bindings → registry.name = name ∧
        event.fields = [("profile", .text name),
          ("count", .number (bindings.map Prod.fst).toFinset.card)]) ∨
    ∃ error offset, Registry.load document = ⟨.error (.badDocument error), []⟩ ∧
      offset ≤ (bytes document.toList).length ∧ (document ≠ "" → 1 ≤ offset) ∧
      Reached ((bytes document.toList).take offset) error.position ∧
      (error.category.label = "eof" ↔ "EOF".toList <+: error.message.toList) ∧
      (error.category.label = "eof" → offset = (bytes document.toList).length) := by
  cases read : readRegistry document.toList with
  | ok registry =>
      refine .inl ⟨registry, .documentLoaded registry.name registry.size, load_of_read read, rfl,
        rfl, rfl, ?_, fun name bindings gives => ?_⟩
      · obtain ⟨name, bindings, gives, _⟩ := readRegistry_eq_ok_iff.mp read
        exact ⟨name, bindings, gives⟩
      · have described := readRegistry_of_describes ⟨name, bindings, gives, rfl⟩
        rw [read] at described
        cases described
        rw [describedRegistry_name, describedRegistry_size]
        exact ⟨rfl, rfl⟩
  | error fault =>
      have stopped := readRegistry_eq_error_iff.mp read
      have length := length_bytes document.toList
      have eof : ∀ {category : Category}, category.label = "eof" ↔ category = .truncated := by
        intro category
        cases category <;> decide
      refine .inr ⟨_, byteSize document.toList - fault.left, load_of_fault read, by omega,
        fun nonempty => ?_, reached_after _, eof.trans (truncated_iff_begins _),
        fun truncated => ?_⟩
      · have some : document.toList ≠ [] := fun empty => nonempty (String.toList_inj.mp empty)
        have further := fault_behind_first stopped some
        omega
      · have ended := wholeDocument_orderly.ended stopped (eof.mp truncated)
        omega

end GraphicsProfile.Document
