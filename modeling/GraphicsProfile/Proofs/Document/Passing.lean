import GraphicsProfile.Document.Grammar.Complete
import GraphicsProfile.Proofs.Document.Lookahead
import GraphicsProfile.Proofs.Document.RoundTrip
import GraphicsProfile.Proofs.Document.Spellings

namespace GraphicsProfile.Document

open Grammar

variable {text rest front gap : List Char} {entries : List Entry} {lead : List Char → Prop}
  {bracket : Bracket}

section Gaps

theorem Grammar.Gap.blanks (blank : Gap gap) (rest : List Char) : Blanks (gap ++ rest) rest :=
  blanks_of_forall blank rest

theorem Grammar.Blanks.exists_gap (blanks : Blanks text rest) :
    ∃ gap, text = gap ++ rest ∧ Gap gap := by
  induction blanks with
  | none => exact ⟨[], rfl, List.forall_mem_nil _⟩
  | @more char _ _ blank _ ih =>
      obtain ⟨gap, rfl, blanks⟩ := ih
      exact ⟨char :: gap, rfl, List.forall_mem_cons.mpr ⟨blank, blanks⟩⟩

end Gaps

section Literals

theorem Grammar.LooseSpells.piece (spells : LooseSpells front) (rest : List Char) :
    LoosePiece (front ++ rest) rest := by
  cases spells with
  | plain noQuote noEscape noControl => exact .plain noQuote noEscape noControl
  | short known => exact .short known
  | codeUnit written => exact .codePoint (written.quad rest)

theorem Grammar.LoosePiece.exists_spells (piece : LoosePiece text rest) :
    ∃ front, text = front ++ rest ∧ LooseSpells front := by
  cases piece with
  | plain noQuote noEscape noControl => exact ⟨[_], rfl, .plain noQuote noEscape noControl⟩
  | short known => exact ⟨['\\', _], rfl, .short known⟩
  | codePoint quad =>
      obtain ⟨word, rfl, written⟩ := quad.exists_word
      exact ⟨'\\' :: 'u' :: word, rfl, .codeUnit written⟩

theorem looseLiteral_of_pieces {pieces : List (List Char)}
    (each : ∀ piece ∈ pieces, LooseSpells piece) (rest : List Char) :
    LooseLiteral (pieces.flatten ++ '"' :: rest) rest := by
  induction pieces with
  | nil => exact .close
  | cons piece pieces ih =>
      obtain ⟨first, later⟩ := List.forall_mem_cons.mp each
      rw [List.flatten_cons, List.append_assoc]
      exact .piece (first.piece _) (ih later)

theorem Grammar.LooseLiteral.exists_pieces (form : LooseLiteral text rest) :
    ∃ pieces : List (List Char), text = pieces.flatten ++ '"' :: rest ∧
      ∀ piece ∈ pieces, LooseSpells piece := by
  induction form with
  | close => exact ⟨[], rfl, List.forall_mem_nil _⟩
  | piece first _ ih =>
      obtain ⟨front, rfl, spells⟩ := first.exists_spells
      obtain ⟨pieces, rfl, each⟩ := ih
      exact ⟨front :: pieces, by simp, List.forall_mem_cons.mpr ⟨spells, each⟩⟩

theorem Grammar.Quotation.looseLiteral (quotation : Quotation front) (rest : List Char) :
    ∃ literal, front ++ rest = '"' :: literal ∧ LooseLiteral literal rest := by
  obtain ⟨each⟩ := quotation
  exact ⟨_, by simp, looseLiteral_of_pieces each rest⟩

theorem Grammar.LooseLiteral.exists_quotation (form : LooseLiteral text rest) :
    ∃ quotation, '"' :: text = quotation ++ rest ∧ Quotation quotation := by
  obtain ⟨pieces, rfl, each⟩ := form.exists_pieces
  exact ⟨_, by simp, .pieces each⟩

end Literals

section Numbers

theorem Grammar.Decimals.digits {row : List Char} (decimals : Decimals row) (rest : List Char) :
    Digits (row ++ rest) row rest :=
  digits_of_all decimals.decimal decimals.nonempty

theorem Grammar.Digits.exists_decimals {row : List Char} (form : Digits text row rest) :
    text = row ++ rest ∧ Decimals row := by
  induction form with
  | @last digit _ decimal => exact ⟨rfl, List.cons_ne_nil _ _, by simpa using decimal⟩
  | more decimal _ ih =>
      obtain ⟨rfl, _, later⟩ := ih
      exact ⟨rfl, List.cons_ne_nil _ _, List.forall_mem_cons.mpr ⟨decimal, later⟩⟩

theorem Grammar.FractionPart.fraction (part : FractionPart front) (rest : List Char) :
    Fraction (front ++ rest) rest := by
  cases part with
  | none => exact .none
  | digits decimals => exact .digits (decimals.digits rest)

theorem Grammar.Fraction.exists_part (form : Fraction text rest) :
    ∃ front, text = front ++ rest ∧ FractionPart front := by
  cases form with
  | none => exact ⟨[], rfl, .none⟩
  | digits row =>
      obtain ⟨rfl, decimals⟩ := row.exists_decimals
      exact ⟨_, rfl, .digits decimals⟩

theorem Grammar.ExponentPart.exponent (part : ExponentPart front) (rest : List Char) :
    Exponent (front ++ rest) rest := by
  cases part with
  | none => exact .none
  | @digits mark sign row marked signed decimals =>
      have unsigned : Sign (sign ++ (row ++ rest)) (row ++ rest) := by
        rcases signed with rfl | rfl | rfl
        · exact .none
        · exact .plus
        · exact .minus
      rw [List.cons_append, List.append_assoc]
      exact .digits marked unsigned (decimals.digits rest)

theorem Grammar.Exponent.exists_part (form : Exponent text rest) :
    ∃ front, text = front ++ rest ∧ ExponentPart front := by
  cases form with
  | none => exact ⟨[], rfl, .none⟩
  | @digits mark _ _ row _ marked sign digits =>
      obtain ⟨rfl, decimals⟩ := digits.exists_decimals
      cases sign with
      | none => exact ⟨mark :: ([] ++ row), rfl, .digits marked (.inl rfl) decimals⟩
      | plus => exact ⟨mark :: (['+'] ++ row), rfl, .digits marked (.inr (.inl rfl)) decimals⟩
      | minus => exact ⟨mark :: (['-'] ++ row), rfl, .digits marked (.inr (.inr rfl)) decimals⟩

theorem Grammar.Numeral.anyNumber (numeral : Numeral front) (rest : List Char) :
    AnyNumber (front ++ rest) rest := by
  cases numeral with
  | @parts sign whole fraction exponent signed decimals noLeadingZero fractional exponential =>
      have unsigned : Unsigned (whole ++ (fraction ++ (exponent ++ rest))) rest :=
        .parts (.digits (decimals.digits _) noLeadingZero) (fractional.fraction _)
          (exponential.exponent rest)
      simp only [List.append_assoc]
      rcases signed with rfl | rfl
      · exact .plain unsigned
      · exact .negative unsigned

theorem Grammar.Unsigned.exists_parts (form : Unsigned text rest) :
    ∃ front, text = front ++ rest ∧
      ∀ sign, sign = [] ∨ sign = ['-'] → Numeral (sign ++ front) := by
  obtain ⟨⟨row, noLeadingZero⟩, fraction, exponent⟩ := form
  obtain ⟨rfl, decimals⟩ := row.exists_decimals
  obtain ⟨_, rfl, fractional⟩ := fraction.exists_part
  obtain ⟨_, rfl, exponential⟩ := exponent.exists_part
  exact ⟨_, by simp only [List.append_assoc],
    fun sign signed => .parts signed decimals noLeadingZero fractional exponential⟩

theorem Grammar.AnyNumber.exists_numeral (form : AnyNumber text rest) :
    ∃ numeral, text = numeral ++ rest ∧ Numeral numeral := by
  cases form with
  | plain unsigned =>
      obtain ⟨front, rfl, numeral⟩ := unsigned.exists_parts
      exact ⟨front, rfl, numeral [] (.inl rfl)⟩
  | negative unsigned =>
      obtain ⟨front, rfl, numeral⟩ := unsigned.exists_parts
      exact ⟨'-' :: front, rfl, numeral ['-'] (.inr rfl)⟩

end Numbers

section Entries

theorem join_cons (entry : Entry) (more : entries ≠ []) :
    Entry.join (entry :: entries) = entry.text ++ ',' :: Entry.join entries := by
  rw [Entry.join, List.map_cons, List.intercalate_cons_of_ne_nil (by simpa using more)]
  simp [Entry.join]

/-- What introduces the value of an entry between the brackets. -/
def leadOf : Bracket → List Char → Prop
  | .list => Gap
  | .object => Label

theorem Grammar.Brackets.exists_bracket {opening closing : Char}
    (matching : Brackets opening closing lead) :
    ∃ bracket : Bracket, opening = bracket.opening ∧ closing = bracket.closing ∧
      lead = leadOf bracket := by
  cases matching with
  | list => exact ⟨.list, rfl, rfl, rfl⟩
  | object => exact ⟨.object, rfl, rfl, rfl⟩

theorem brackets_leadOf (bracket : Bracket) :
    Brackets bracket.opening bracket.closing (leadOf bracket) := by
  cases bracket with
  | list => exact .list
  | object => exact .object

theorem item_of_lead {value : List Char} (introduced : leadOf bracket front)
    (form : Value (value ++ rest) rest) : Item bracket (front ++ (value ++ rest)) rest := by
  cases bracket with
  | list => exact .element (Gap.blanks introduced _) form
  | object =>
      obtain @⟨before, key, around, space, gapBefore, quoted, gapAround, gapBehind⟩ := introduced
      obtain ⟨literal, opened, name⟩ := quoted.looseLiteral
        (around ++ ':' :: (space ++ (value ++ rest)))
      simp only [List.append_assoc, List.cons_append, opened]
      exact .member (gapBefore.blanks _) name (gapAround.blanks _) (gapBehind.blanks _) form

theorem body_of_entries (nonempty : entries ≠ [])
    (leads : ∀ entry ∈ entries, leadOf bracket entry.lead)
    (values : ∀ entry ∈ entries, ∀ rest, Value (entry.value ++ rest) rest)
    (trails : ∀ entry ∈ entries, Gap entry.trail) (rest : List Char) :
    Body bracket (Entry.join entries ++ bracket.closing :: rest) rest := by
  induction entries with
  | nil => exact absurd rfl nonempty
  | cons entry entries ih =>
      obtain ⟨lead, leads⟩ := List.forall_mem_cons.mp leads
      obtain ⟨value, values⟩ := List.forall_mem_cons.mp values
      obtain ⟨trail, trails⟩ := List.forall_mem_cons.mp trails
      -- The bracket is behind the last entry, and a comma behind any other.
      by_cases last : entries = []
      · subst last
        have item := item_of_lead lead (value (entry.trail ++ bracket.closing :: rest))
        have whole := body_of_item item (.close (trail.blanks _))
        simpa [Entry.join, Entry.text] using whole
      · have later := ih last leads values trails
        have item := item_of_lead lead
          (value (entry.trail ++ ',' :: (Entry.join entries ++ bracket.closing :: rest)))
        have whole := body_of_item item (.next (trail.blanks _) later)
        rw [join_cons entry last]
        simpa [Entry.text] using whole

end Entries

/-- A complete value is a value, whatever follows it. -/
theorem Grammar.Complete.value (form : Complete text) (rest : List Char) :
    Value (text ++ rest) rest := by
  induction form generalizing rest with
  | null => exact .null
  | yes => exact .yes
  | no => exact .no
  | number form => exact .number (form.anyNumber rest)
  | literal form =>
      obtain ⟨literal, opened, form⟩ := form.looseLiteral rest
      rw [opened]
      exact .literal form
  | empty matching blank =>
      obtain ⟨bracket, rfl, rfl, -⟩ := matching.exists_bracket
      have owed : Owed true bracket _ rest := .close (blank.blanks _)
      simpa using value_of_owed owed
  | filled matching nonempty leads _ trails ih =>
      obtain ⟨bracket, rfl, rfl, rfl⟩ := matching.exists_bracket
      have body := body_of_entries nonempty leads ih trails rest
      have owed : Owed true bracket _ rest := .first body
      simpa using value_of_owed owed

/-- Entries that may stand between the given brackets. -/
structure Fits (bracket : Bracket) (entries : List Entry) : Prop where
  nonempty : entries ≠ []
  leads : ∀ entry ∈ entries, leadOf bracket entry.lead
  values : ∀ entry ∈ entries, Complete entry.value
  trails : ∀ entry ∈ entries, Gap entry.trail

theorem Fits.complete (fits : Fits bracket entries) :
    Complete (bracket.opening :: (Entry.join entries ++ [bracket.closing])) :=
  .filled (brackets_leadOf bracket) fits.nonempty fits.leads fits.values fits.trails

theorem Fits.single {entry : Entry} (lead : leadOf bracket entry.lead)
    (value : Complete entry.value) (trail : Gap entry.trail) : Fits bracket [entry] :=
  ⟨List.cons_ne_nil _ _, by simpa using lead, by simpa using value, by simpa using trail⟩

theorem Fits.cons {entry : Entry} (lead : leadOf bracket entry.lead)
    (value : Complete entry.value) (trail : Gap entry.trail) (fits : Fits bracket entries) :
    Fits bracket (entry :: entries) :=
  ⟨List.cons_ne_nil _ _, List.forall_mem_cons.mpr ⟨lead, fits.leads⟩,
    List.forall_mem_cons.mpr ⟨value, fits.values⟩, List.forall_mem_cons.mpr ⟨trail, fits.trails⟩⟩

theorem exists_label {key colon separated value : List Char} (before : Blanks text ('"' :: key))
    (name : LooseLiteral key colon) (around : Blanks colon (':' :: separated))
    (space : Blanks separated value) : ∃ front, text = front ++ value ∧ Label front := by
  obtain ⟨first, rfl, gapBefore⟩ := before.exists_gap
  obtain ⟨quotation, opened, quoted⟩ := name.exists_quotation
  obtain ⟨second, rfl, gapAround⟩ := around.exists_gap
  obtain ⟨third, rfl, gapBehind⟩ := space.exists_gap
  refine ⟨_, ?_, .key gapBefore quoted gapAround gapBehind⟩
  rw [opened]
  simp

/-- The text is entries and the bracket that closes them, and then the rest. -/
def Itemized (bracket : Bracket) (text rest : List Char) : Prop :=
  ∃ entries, text = Entry.join entries ++ bracket.closing :: rest ∧ Fits bracket entries

theorem Itemized.single {value behind : List Char} (lead : leadOf bracket front)
    (element : Complete value) (after : Blanks behind (bracket.closing :: rest)) :
    Itemized bracket (front ++ (value ++ behind)) rest := by
  obtain ⟨trail, rfl, gap⟩ := after.exists_gap
  exact ⟨[⟨front, value, trail⟩], by simp [Entry.join, Entry.text], .single lead element gap⟩

theorem Itemized.cons {value behind later : List Char} (lead : leadOf bracket front)
    (element : Complete value) (after : Blanks behind (',' :: later))
    (others : Itemized bracket later rest) :
    Itemized bracket (front ++ (value ++ behind)) rest := by
  obtain ⟨trail, rfl, gap⟩ := after.exists_gap
  obtain ⟨entries, rfl, fits⟩ := others
  refine ⟨⟨front, value, trail⟩ :: entries, ?_, fits.cons lead element gap⟩
  rw [join_cons _ fits.nonempty]
  simp [Entry.text]

theorem Itemized.exists_complete (itemized : Itemized bracket text rest) :
    ∃ value, bracket.opening :: text = value ++ rest ∧ Complete value := by
  obtain ⟨entries, rfl, fits⟩ := itemized
  exact ⟨_, by simp, fits.complete⟩

theorem complete_of_gap (bracket : Bracket) (blanks : Blanks text (bracket.closing :: rest)) :
    ∃ value, bracket.opening :: text = value ++ rest ∧ Complete value := by
  obtain ⟨gap, rfl, blank⟩ := blanks.exists_gap
  exact ⟨_, by simp, .empty (brackets_leadOf bracket) blank⟩

mutual

/-- A value is a complete value with the text behind it. -/
theorem exists_complete {text rest : List Char} (form : Value text rest) :
    ∃ value, text = value ++ rest ∧ Complete value := by
  match form with
  | .null => exact ⟨_, rfl, .null⟩
  | .yes => exact ⟨_, rfl, .yes⟩
  | .no => exact ⟨_, rfl, .no⟩
  | .number form =>
      obtain ⟨text, split, numeral⟩ := form.exists_numeral
      exact ⟨text, split, .number numeral⟩
  | .literal form =>
      obtain ⟨text, split, quotation⟩ := form.exists_quotation
      exact ⟨text, split, .literal quotation⟩
  | .emptyList blanks => exact complete_of_gap .list blanks
  | .emptyObject blanks => exact complete_of_gap .object blanks
  | .list elements => exact (itemized_of_elements elements).exists_complete
  | .object members => exact (itemized_of_members members).exists_complete

theorem itemized_of_elements {text rest : List Char} (form : Elements text rest) :
    Itemized .list text rest := by
  match form with
  | .last before element after =>
      obtain ⟨front, rfl, gap⟩ := before.exists_gap
      obtain ⟨value, rfl, complete⟩ := exists_complete element
      exact .single gap complete after
  | .more before element after elements =>
      obtain ⟨front, rfl, gap⟩ := before.exists_gap
      obtain ⟨value, rfl, complete⟩ := exists_complete element
      exact .cons gap complete after (itemized_of_elements elements)

theorem itemized_of_members {text rest : List Char} (form : Members text rest) :
    Itemized .object text rest := by
  match form with
  | .last before name around space member after =>
      obtain ⟨front, rfl, label⟩ := exists_label before name around space
      obtain ⟨value, rfl, complete⟩ := exists_complete member
      exact .single label complete after
  | .more before name around space member after members =>
      obtain ⟨front, rfl, label⟩ := exists_label before name around space
      obtain ⟨value, rfl, complete⟩ := exists_complete member
      exact .cons label complete after (itemized_of_members members)

end

/-- How a value is passed over, and in how many rounds: something is opened, and if that is a
bracket the rounds go on until it is closed. -/
inductive Passes : Nat → List Char → Except Fault (Unit × List Char) → Prop where
  | refused {text : List Char} {fault : Fault} (opening : skipOpening text = .error fault) :
      Passes 0 text (.error fault)
  | scalar {text rest : List Char} (opening : skipOpening text = .ok (none, rest)) :
      Passes 0 text (.ok ((), rest))
  | nested {count : Nat} {text behind : List Char} {bracket : Bracket}
      {outcome : Except Fault (Nesting × List Char)}
      (opening : skipOpening text = .ok (some bracket, behind))
      (rounds : Reader.Rounds skipStep count ⟨true, [bracket]⟩ behind outcome) :
      Passes count text (outcome.map fun ended => ((), ended.2))

theorem skipValue_nested {behind : List Char}
    (opening : skipOpening text = .ok (some bracket, behind)) :
    skipValue text = (Reader.run skipStep skipStep_progresses ⟨true, [bracket]⟩ behind).map
      fun ended => ((), ended.2) := by
  unfold skipValue
  rw [Reader.bind_eq_of_ok opening]
  cases ended : Reader.run skipStep skipStep_progresses ⟨true, [bracket]⟩ behind with
  | error fault => exact Reader.bind_eq_of_error ended
  | ok result => exact Reader.bind_eq_of_ok ended

theorem exists_passes (text : List Char) :
    ∃ count ≤ text.length, Passes count text (skipValue text) := by
  cases opening : skipOpening text with
  | error fault =>
      have stopped : skipValue text = .error fault := Reader.bind_eq_of_error opening
      rw [stopped]
      exact ⟨0, Nat.zero_le _, .refused opening⟩
  | ok opened =>
      obtain ⟨opened, behind⟩ := opened
      cases opened with
      | none =>
          have passed : skipValue text = .ok ((), behind) := Reader.bind_eq_of_ok opening
          rw [passed]
          exact ⟨0, Nat.zero_le _, .scalar opening⟩
      | some bracket =>
          obtain ⟨count, bounded, rounds⟩ :=
            Reader.exists_rounds skipStep_progresses ⟨true, [bracket]⟩ behind
          have shorter := skipOpening_advances.shorter opening
          rw [skipValue_nested opening]
          exact ⟨count, by omega, .nested opening rounds⟩

/-- Passing over a value is exact. Every complete value is passed over up to where it ends, whatever
its depth and the size of its numbers, and what is passed over is blanks and one complete value. On
every text it comes to an end, in no more rounds than there are characters. -/
theorem skipping_exact :
    (∀ gap value rest, Gap gap → Complete value → Delimited rest →
      skipValue (gap ++ (value ++ rest)) = .ok ((), rest)) ∧
    (∀ text rest, skipValue text = .ok ((), rest) →
      ∃ gap value, text = gap ++ (value ++ rest) ∧ Gap gap ∧ Complete value) ∧
    ∀ text, ∃ count ≤ text.length, Passes count text (skipValue text) := by
  refine ⟨fun gap value rest blank complete delimited => ?_, fun text rest success => ?_,
    exists_passes⟩
  · exact skipValue_complete (blank.blanks _) (complete.value rest) delimited
  · obtain ⟨gap, split, blank⟩ := (blanks_skipBlanks text).exists_gap
    obtain ⟨value, same, complete⟩ := exists_complete (skipValue_sound success)
    exact ⟨gap, value, same ▸ split, blank, complete⟩

theorem complete_nested (depth : Nat) :
    Complete (List.replicate (depth + 1) '[' ++ List.replicate (depth + 1) ']') := by
  induction depth with
  | zero => exact .empty .list (List.forall_mem_nil _)
  | succ depth ih =>
      have fits : Fits .list [⟨[], _, []⟩] :=
        .single (List.forall_mem_nil _) ih (List.forall_mem_nil _)
      have whole := fits.complete
      rw [List.replicate_succ, List.replicate_succ' (n := depth + 1) (a := ']')]
      simpa [Entry.join, Entry.text, Bracket.opening, Bracket.closing] using whole

theorem skipping_exact_nested :
    (∀ depth, skipValue (List.replicate (depth + 1) '[' ++ List.replicate (depth + 1) ']') =
      .ok ((), [])) ∧
    skipValue " \x7b\"\\ud800\":[1e999]\x7d,".toList = .ok ((), [',']) := by
  obtain ⟨passed, _, _⟩ := skipping_exact
  have ended : Delimited [] := fun _ member => by cases member
  have noBlanks : Gap [] := List.forall_mem_nil _
  refine ⟨fun depth => ?_, ?_⟩
  · have nested := passed [] _ [] noBlanks (complete_nested depth) ended
    simpa using nested
  · have one : Decimals ['1'] := ⟨List.cons_ne_nil _ _, List.all_eq_true.mp rfl⟩
    have nines : Decimals "999".toList := ⟨List.cons_ne_nil _ _, List.all_eq_true.mp rfl⟩
    have number : Numeral ([] ++ (['1'] ++ ([] ++ ('e' :: ([] ++ "999".toList))))) :=
      .parts (.inl rfl) one (by decide) .none (.digits (.inl rfl) (.inl rfl) nines)
    have list : Fits .list [⟨[], _, []⟩] := .single noBlanks (.number number) noBlanks
    have surrogate : HexWord "d800".toList (0xd * 0x1000 + 0x8 * 0x100 + 0x0 * 0x10 + 0x0) :=
      .digits (.inl rfl) (.inl rfl) (.inl rfl) (.inl rfl)
    have key : Quotation ('"' :: ([_].flatten ++ ['"'])) :=
      .pieces (List.forall_mem_singleton.mpr (.codeUnit surrogate))
    have label := Label.key noBlanks key noBlanks noBlanks
    have object : Fits .object [⟨_, _, []⟩] := .single label list.complete noBlanks
    exact passed [' '] _ [','] (List.forall_mem_singleton.mpr (.inl rfl)) object.complete
      fun _ member => .inr (.inl (Option.mem_some.mp member).symm)

end GraphicsProfile.Document
