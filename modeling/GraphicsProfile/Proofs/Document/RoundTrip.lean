import GraphicsProfile.Document.Writing
import GraphicsProfile.Proofs.Document.Acceptance

namespace GraphicsProfile.Document

open Grammar

variable {text rest : List Char} {value : Nat}

theorem blanks_of_all {blanks : List Char} (blank : blanks.all isBlank = true) :
    Blanks (blanks ++ rest) rest :=
  blanks_of_forall (fun char member => isBlank_iff.mp (List.all_eq_true.mp blank char member)) rest

theorem hexDigit_written (below : value < 16) : HexDigit (hexDigit value) value := by
  unfold HexDigit
  revert below value
  decide

theorem hexQuad_of_control {char : Char} (control : char.toNat < 0x20) :
    HexQuad ('0' :: '0' :: hexDigit (char.toNat / 16) :: hexDigit (char.toNat % 16) :: rest)
      char.toNat rest := by
  have upper : HexDigit (hexDigit (char.toNat / 16)) (char.toNat / 16) :=
    hexDigit_written (by omega)
  have lower : HexDigit (hexDigit (char.toNat % 16)) (char.toNat % 16) :=
    hexDigit_written (by omega)
  have zero : HexDigit '0' 0 := .inl rfl
  have quad : HexQuad _ _ rest := .digits zero zero upper lower
  have whole : 0 * 0x1000 + 0 * 0x100 + char.toNat / 16 * 0x10 + char.toNat % 16 = char.toNat := by
    omega
  rwa [whole] at quad

theorem piece_writeChar (char : Char) : Piece (writeChar char ++ rest) char rest := by
  unfold writeChar
  split
  · exact .short (by decide)
  · exact .short (by decide)
  · exact .short (by decide)
  · exact .short (by decide)
  · exact .short (by decide)
  · exact .short (by decide)
  · exact .short (by decide)
  · rename_i noQuote noEscape _ _ _ _ _
    split
    · rename_i control
      exact .codePoint (hexQuad_of_control control)
    · rename_i printed
      exact .plain noQuote noEscape (Nat.le_of_not_lt printed)

theorem literal_flatMap_writeChar (chars : List Char) :
    Literal (chars.flatMap writeChar ++ '"' :: rest) chars rest := by
  induction chars with
  | nil => exact .close
  | cons char chars ih =>
      rw [List.flatMap_cons, List.append_assoc]
      exact .piece (piece_writeChar char) ih

theorem writeLiteral_append (spelled : String) :
    writeLiteral spelled ++ rest = '"' :: (spelled.toList.flatMap writeChar ++ '"' :: rest) := by
  simp [writeLiteral]

theorem key_of_written {blanks : List Char} (blank : blanks.all isBlank = true) (key : String) :
    Key (blanks ++ (writeLiteral key ++ ':' :: rest)) key rest := by
  rw [writeLiteral_append]
  exact .quoted (blanks_of_all blank) (literal_flatMap_writeChar _) .none

theorem digits_of_all {digits : List Char} (decimal : ∀ digit ∈ digits, digit.isDigit = true)
    (nonempty : digits ≠ []) : Digits (digits ++ rest) digits rest := by
  induction digits with
  | nil => exact absurd rfl nonempty
  | cons digit digits ih =>
      have first : digit.isDigit = true := decimal digit List.mem_cons_self
      by_cases last : digits = []
      · subst last
        exact .last first
      · exact .more first (ih (fun later member => decimal later (.tail _ member)) last)

theorem decimalValue_toDigits (value : Nat) : decimalValue (Nat.toDigits 10 value) = value := by
  rw [decimalValue, Nat.ofDigitChars_ten_toDigits]

theorem toDigits_noLeadingZero (zero : (Nat.toDigits 10 value).head? = some '0') :
    Nat.toDigits 10 value = ['0'] := by
  induction value using Nat.strongRecOn with
  | ind value ih =>
      by_cases short : value < 10
      · rw [Nat.toDigits_of_lt_base short] at zero ⊢
        exact congrArg (· :: []) (Option.some.inj zero)
      · -- The front of the row is the row of a smaller number, which cannot be zero.
        have front := Nat.toDigits_of_base_le (by decide : 1 < 10) (Nat.le_of_not_lt short)
        have same : (Nat.toDigits 10 value).head? = (Nat.toDigits 10 (value / 10)).head? := by
          rw [front]
          cases row : Nat.toDigits 10 (value / 10) with
          | nil => exact absurd row Nat.toDigits_ne_nil
          | cons => rfl
        have alone := ih (value / 10) (by omega) (same.symm.trans zero)
        have nothing : decimalValue ['0'] = value / 10 := alone ▸ decimalValue_toDigits (value / 10)
        have positive : 0 < value / 10 := by omega
        rw [← nothing] at positive
        contradiction

theorem whole_toDigits (value : Nat) :
    Whole (Nat.toDigits 10 value ++ rest) (Nat.toDigits 10 value) rest := by
  refine .digits (digits_of_all ?_ Nat.toDigits_ne_nil) toDigits_noLeadingZero
  intro digit member
  exact Nat.isDigit_of_mem_toDigits (by decide) (by decide) member

theorem binding_of_written (binding : String × UInt32) :
    Binding (writeBinding binding ++ rest) binding rest := by
  have written : writeBinding binding ++ rest = "\n    ".toList ++ (writeLiteral binding.1 ++
      ':' :: (' ' :: (Nat.toDigits 10 binding.2.toNat ++ rest))) := by
    have separator : ": ".toList = [':', ' '] := by decide
    unfold writeBinding
    simp only [separator, List.append_assoc, List.cons_append, List.nil_append]
  have code : Code (Nat.toDigits 10 binding.2.toNat ++ rest) binding.2 rest :=
    .whole (whole_toDigits _) (decimalValue_toDigits _)
  rw [written]
  exact .member (key_of_written (by decide) _) (.more (.inl rfl) .none) code

theorem remaining_of_written (later : List (String × UInt32)) :
    Remaining Binding
      (later.flatMap (fun binding => ',' :: writeBinding binding) ++ ("\n  \x7d".toList ++ rest))
      later rest := by
  induction later with
  | nil =>
      have layout : "\n  ".toList.all isBlank = true := by decide
      exact .close (blanks_of_all layout)
  | cons binding later ih =>
      rw [List.flatMap_cons, List.append_assoc]
      exact .next .none (binding_of_written binding) ih

theorem enclosed_of_written (bindings : List (String × UInt32)) :
    ∃ members, writeBindings bindings ++ rest = '{' :: members ∧
      Enclosed Binding members bindings rest := by
  cases bindings with
  | nil => exact ⟨_, rfl, .empty .none⟩
  | cons first later =>
      have written : writeBindings (first :: later) ++ rest = '{' :: (writeBinding first ++
          (later.flatMap (fun binding => ',' :: writeBinding binding) ++
            ("\n  \x7d".toList ++ rest))) := by
        simp [writeBindings]
      exact ⟨_, written,
        enclosed_of_remaining (binding_of_written first) (remaining_of_written later)⟩

theorem written_described (registry : Registry) :
    describedRegistry registry.name registry.bindings.entries = registry := by
  rw [describedRegistry_eq, Table.ofList_entries]

theorem name_of_written (registry : Registry) :
    Member ("\n  ".toList ++ (writeLiteral Field.name.key ++
      ':' :: (' ' :: (writeLiteral registry.name ++ rest)))) (.name registry.name) rest := by
  have layout : "\n  ".toList.all isBlank = true := by decide
  rw [writeLiteral_append registry.name]
  exact .name (key_of_written layout _) (.more (.inl rfl) .none) (literal_flatMap_writeChar _)

theorem bindings_of_written (bindings : List (String × UInt32)) :
    Member ("\n  ".toList ++ (writeLiteral Field.bindings.key ++
      ':' :: (' ' :: (writeBindings bindings ++ rest)))) (.bindings bindings) rest := by
  have layout : "\n  ".toList.all isBlank = true := by decide
  obtain ⟨members, written, form⟩ : ∃ members, writeBindings bindings ++ rest = '{' :: members ∧
      Enclosed Binding members bindings rest := enclosed_of_written bindings
  rw [written]
  exact .bindings (key_of_written layout _) (.more (.inl rfl) .none) form

theorem writeRegistry_eq (registry : Registry) :
    writeRegistry registry = '{' :: ("\n  ".toList ++ (writeLiteral Field.name.key ++
      ':' :: (' ' :: (writeLiteral registry.name ++
        ',' :: ("\n  ".toList ++ (writeLiteral Field.bindings.key ++
          ':' :: (' ' :: (writeBindings registry.bindings.entries ++ "\n\x7d".toList)))))))) := by
  have opening : "\x7b\n  \"name\": ".toList =
      '{' :: ("\n  ".toList ++ (writeLiteral Field.name.key ++ [':', ' '])) := by decide
  have middle : ",\n  \"enums\": ".toList =
      ',' :: ("\n  ".toList ++ (writeLiteral Field.bindings.key ++ [':', ' '])) := by decide
  unfold writeRegistry
  simp only [opening, middle, List.append_assoc, List.cons_append, List.nil_append]

theorem describes_writeRegistry (registry : Registry) :
    Describes (writeRegistry registry) registry := by
  rw [writeRegistry_eq]
  have close : Blanks "\n\x7d".toList ('}' :: []) := .more (by decide) .none
  have form := Enclosed.items (.more (name_of_written registry) .none .none)
    (bindings_of_written registry.bindings.entries) close
  have gives : Gives _ registry.name registry.bindings.entries :=
    .object .none form .none ⟨Nat.le_refl 1, Nat.le_refl 1⟩
  exact ⟨_, _, gives, (written_described registry).symm⟩

theorem load_toDocument (registry : Registry) :
    (Registry.load registry.toDocument).value = .ok registry := by
  rw [load_eq_ok_iff, Registry.toDocument, String.toList_ofList]
  exact describes_writeRegistry registry

/-- The document in which a document is written again. -/
def normalized (document : String) : Except ProfileError String :=
  (Registry.load document).value.map Registry.toDocument

theorem written_of_normalized {document again : String} (found : normalized document = .ok again) :
    ∃ registry : Registry, again = registry.toDocument := by
  rw [normalized] at found
  cases read : (Registry.load document).value with
  | error error =>
      rw [read] at found
      cases found
  | ok registry =>
      rw [read] at found
      exact ⟨registry, (Except.ok.inj found).symm⟩

theorem normalized_toDocument (registry : Registry) :
    normalized registry.toDocument = .ok registry.toDocument := by
  rw [normalized, load_toDocument, Except.map]

/-- What is written is read as it was, so a document that is accepted and written again describes
the same registry, and is written the same way from then on. -/
theorem toDocument_round_trip :
    (∀ registry : Registry, (Registry.load registry.toDocument).value = .ok registry) ∧
    (∀ document, (normalized document).bind (fun again => (Registry.load again).value) =
      (Registry.load document).value) ∧
    ∀ document, (normalized document).bind normalized = normalized document := by
  refine ⟨load_toDocument, fun document => ?_, fun document => ?_⟩
  · rw [normalized]
    cases (Registry.load document).value with
    | error error => rfl
    | ok registry =>
        simp only [Except.map, Except.bind]
        exact load_toDocument registry
  · cases found : normalized document with
    | error error => rfl
    | ok again =>
        obtain ⟨registry, written⟩ := written_of_normalized found
        rw [Except.bind, written]
        exact normalized_toDocument registry

end GraphicsProfile.Document
