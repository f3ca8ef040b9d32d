import GraphicsProfile.Document.Grammar.Layout
import GraphicsProfile.Proofs.Document.Decoding
import GraphicsProfile.Proofs.Text.Bytes
import GraphicsProfile.Registry.Access

namespace GraphicsProfile.Document

open Grammar Text

variable {name : String} {binding : String × UInt32}
  {bindings before later : List (String × UInt32)} {text front back : List Char}
  {lines : List (List Char)}

section Printed

/-- No character of the text is below the space. -/
def Printed (text : List Char) : Prop :=
  text.all (fun char => decide (0x20 ≤ char.toNat)) = true

theorem printed_append : Printed (front ++ back) ↔ Printed front ∧ Printed back := by
  simp only [Printed, List.all_append, Bool.and_eq_true]

theorem Printed.le (printed : Printed text) : ∀ char ∈ text, 0x20 ≤ char.toNat := fun char member =>
  of_decide_eq_true (List.all_eq_true.mp printed char member)

theorem Printed.noLineFeed (printed : Printed text) : '\n' ∉ text := fun member =>
  absurd (printed.le _ member) (by decide)

theorem printed_writeChar (char : Char) : Printed (writeChar char) := by
  have digits : ∀ value < 16, 0x20 ≤ (hexDigit value).toNat := by decide
  unfold writeChar
  split <;> try rfl
  split
  · have upper := digits (char.toNat / 16) (by omega)
    have lower := digits (char.toNat % 16) (by omega)
    simp [Printed, upper, lower]
  · rename_i visible
    simpa [Printed] using visible

theorem printed_writeLiteral (text : String) : Printed (writeLiteral text) := by
  have quote : Printed ['"'] := rfl
  have inner : Printed (text.toList.flatMap writeChar) := by
    induction text.toList with
    | nil => rfl
    | cons char chars ih => exact printed_append.mpr ⟨printed_writeChar char, ih⟩
  have closed : Printed (text.toList.flatMap writeChar ++ ['"']) :=
    printed_append.mpr ⟨inner, quote⟩
  exact (printed_append.mpr ⟨quote, closed⟩ : Printed (['"'] ++ _))

theorem printed_toDigits (value : Nat) : Printed (Nat.toDigits 10 value) := by
  refine List.all_eq_true.mpr fun digit member => decide_eq_true ?_
  have decimal := Nat.isDigit_of_mem_toDigits (by decide) (by decide) member
  simp only [Char.isDigit, Bool.and_eq_true, decide_eq_true_eq] at decimal
  exact Nat.le_trans (by decide) decimal.1

end Printed

section Lines

/-- The lines of a document. -/
def linesOf (document : String) : List (List Char) :=
  document.toList.splitOn '\n'

/-- The line of a binding, up to its comma. -/
def bindingLine (binding : String × UInt32) : List Char :=
  "    ".toList ++ writeLiteral binding.1 ++ ": ".toList ++ Nat.toDigits 10 binding.2.toNat

def bindingLines : List (String × UInt32) → List (List Char)
  | [] => []
  | binding :: later =>
    (bindingLine binding ++ if later.isEmpty then [] else [',']) :: bindingLines later

def nameLine (name : String) : List Char :=
  "  \"name\": ".toList ++ writeLiteral name ++ ",".toList

/-- The lines that are written for a name and bindings. -/
def writtenLines (name : String) : List (String × UInt32) → List (List Char)
  | [] => ["\x7b".toList, nameLine name, "  \"enums\": \x7b\x7d".toList, "\x7d".toList]
  | first :: later => ["\x7b".toList, nameLine name, "  \"enums\": \x7b".toList] ++
      bindingLines (first :: later) ++ ["  \x7d".toList, "\x7d".toList]

theorem printed_bindingLine (binding : String × UInt32) : Printed (bindingLine binding) := by
  have indent : Printed "    ".toList := rfl
  have separator : Printed ": ".toList := rfl
  have key := printed_append.mpr ⟨indent, printed_writeLiteral binding.1⟩
  exact printed_append.mpr ⟨printed_append.mpr ⟨key, separator⟩, printed_toDigits _⟩

theorem printed_bindingLines : ∀ line ∈ bindingLines bindings, Printed line := by
  induction bindings with
  | nil => simp [bindingLines]
  | cons binding later ih =>
      refine List.forall_mem_cons.mpr ⟨printed_append.mpr ⟨printed_bindingLine binding, ?_⟩, ih⟩
      split <;> rfl

theorem printed_nameLine (name : String) : Printed (nameLine name) := by
  have opening : Printed "  \"name\": ".toList := rfl
  have closing : Printed ",".toList := rfl
  exact printed_append.mpr ⟨printed_append.mpr ⟨opening, printed_writeLiteral name⟩, closing⟩

theorem printed_writtenLines : ∀ line ∈ writtenLines name bindings, Printed line := by
  cases bindings with
  | nil =>
      simp only [writtenLines, List.forall_mem_cons]
      exact ⟨rfl, printed_nameLine name, rfl, rfl, by simp⟩
  | cons first later =>
      simp only [writtenLines, List.forall_mem_append, List.forall_mem_cons]
      exact ⟨⟨⟨rfl, printed_nameLine name, rfl, by simp⟩, printed_bindingLines⟩, rfl, rfl, by simp⟩

theorem intercalate_cons (first : List Char) (later : List (List Char)) :
    ['\n'].intercalate (first :: later) = first ++ later.flatMap fun line => '\n' :: line := by
  induction later generalizing first with
  | nil => simp
  | cons second later ih => simp [List.intercalate_cons_cons, ih]

theorem writeBinding_eq (binding : String × UInt32) :
    writeBinding binding = '\n' :: bindingLine binding := by
  have opening : "\n    ".toList = '\n' :: "    ".toList := by decide
  unfold writeBinding
  rw [opening]
  rfl

theorem flatMap_bindingLines (first : String × UInt32) (later : List (String × UInt32)) :
    ((bindingLines (first :: later)).flatMap fun line => '\n' :: line) =
      writeBinding first ++ later.flatMap fun binding => ',' :: writeBinding binding := by
  induction later generalizing first with
  | nil => simp [bindingLines, writeBinding_eq]
  | cons second later ih =>
      rw [bindingLines, List.flatMap_cons, ih, writeBinding_eq first]
      simp

theorem writeRegistry_lines (registry : Registry) : writeRegistry registry =
    ['\n'].intercalate (writtenLines registry.name registry.bindings.entries) := by
  have opening : "\x7b\n  \"name\": ".toList =
      "\x7b".toList ++ '\n' :: "  \"name\": ".toList := by decide
  have middle : ",\n  \"enums\": ".toList =
      ",".toList ++ '\n' :: "  \"enums\": ".toList := by decide
  have closing : "\n\x7d".toList = '\n' :: "\x7d".toList := by decide
  unfold writeRegistry
  rw [opening, middle, closing]
  cases registry.bindings.entries with
  | nil =>
      have unbound : "  \"enums\": \x7b\x7d".toList =
          "  \"enums\": ".toList ++ ['{', '}'] := by decide
      unfold writtenLines writeBindings nameLine
      simp only [intercalate_cons, unbound, List.flatMap_cons, List.flatMap_nil, List.append_assoc,
        List.cons_append, List.append_nil]
  | cons first later =>
      have bound : "  \"enums\": \x7b".toList =
          "  \"enums\": ".toList ++ ['{'] := by decide
      have ending : "\n  \x7d".toList = '\n' :: "  \x7d".toList := by decide
      unfold writtenLines writeBindings nameLine
      simp only [intercalate_cons, bound, List.flatMap_cons, List.flatMap_append,
        flatMap_bindingLines, ending, List.flatMap_nil, List.append_assoc,
        List.cons_append, List.nil_append, List.append_nil]

theorem writtenLines_ne_nil : writtenLines name bindings ≠ [] := by
  cases bindings <;> exact List.cons_ne_nil _ _

theorem linesOf_toDocument (registry : Registry) : linesOf registry.toDocument =
    writtenLines registry.name registry.bindings.entries := by
  rw [linesOf, Registry.toDocument, String.toList_ofList, writeRegistry_lines]
  exact List.splitOn_intercalate _ (fun _ member => (printed_writtenLines _ member).noLineFeed)
    writtenLines_ne_nil

theorem length_bindingLines : (bindingLines bindings).length = bindings.length := by
  induction bindings with
  | nil => rfl
  | cons binding later ih => rw [bindingLines, List.length_cons, List.length_cons, ih]

theorem length_writtenLines : (writtenLines name bindings).length =
    if bindings.length = 0 then 4 else bindings.length + 5 := by
  cases bindings with
  | nil => rfl
  | cons first later =>
      rw [writtenLines, List.length_append, List.length_append, length_bindingLines,
        if_neg (List.length_pos_of_mem List.mem_cons_self).ne']
      simp only [List.length_cons, List.length_nil]
      omega

end Lines

section Form

theorem row_bindingLine (binding : String × UInt32) : Row binding (bindingLine binding) := by
  obtain ⟨name, code⟩ := binding
  obtain ⟨spelling, written, spelled⟩ := writeLiteral_spelling name
  have whole : Whole (Nat.toDigits 10 code.toNat) (Nat.toDigits 10 code.toNat) [] := by
    have digits : Whole _ _ [] := whole_toDigits code.toNat
    rwa [List.append_nil] at digits
  have opening : "    \"".toList = "    ".toList ++ ['"'] := by decide
  have closing : "\": ".toList = '"' :: ": ".toList := by decide
  have row := Row.line spelled (.whole whole (decimalValue_toDigits _))
  rw [opening, closing] at row
  unfold bindingLine
  rw [written]
  simpa using row

theorem rows_bindingLines (first : String × UInt32) (later : List (String × UInt32)) :
    Rows (first :: later) (bindingLines (first :: later)) := by
  induction later generalizing first with
  | nil =>
      rw [bindingLines, List.isEmpty_nil, if_pos rfl, List.append_nil]
      exact .last (row_bindingLine first)
  | cons second later ih => exact .more (row_bindingLine first) (ih second)

theorem sheet_writtenLines (name : String) (bindings : List (String × UInt32)) :
    Sheet name bindings (writtenLines name bindings) := by
  obtain ⟨spelling, written, spelled⟩ := writeLiteral_spelling name
  have line : nameLine name = "  \"name\": \"".toList ++ spelling ++ "\",".toList := by
    have opening : "  \"name\": \"".toList = "  \"name\": ".toList ++ ['"'] := by decide
    have closing : "\",".toList = '"' :: ",".toList := by decide
    unfold nameLine
    rw [written, opening, closing]
    simp
  cases bindings with
  | nil =>
      rw [writtenLines, line]
      exact .unbound spelled
  | cons first later =>
      rw [writtenLines, line]
      exact .bound spelled (rows_bindingLines first later)

end Form

section Marks

/-- Lines that are joined hold no line feed but the ones between them. -/
theorem count_intercalate (unbroken : ∀ line ∈ lines, '\n' ∉ line) :
    (['\n'].intercalate lines).count '\n' = lines.length - 1 := by
  induction lines with
  | nil => rfl
  | cons first later ih =>
      obtain ⟨start, unbroken⟩ := List.forall_mem_cons.mp unbroken
      cases later with
      | nil =>
          rw [List.intercalate_singleton]
          exact List.count_eq_zero.mpr start
      | cons second later =>
          have between : ['\n'].count '\n' = 1 := rfl
          rw [List.intercalate_cons_cons, List.count_append, List.count_append, ih unbroken,
            List.count_eq_zero.mpr start, between]
          simp only [List.length_cons]
          omega

theorem mem_intercalate {char : Char} (member : char ∈ ['\n'].intercalate lines) :
    char = '\n' ∨ ∃ line ∈ lines, char ∈ line := by
  cases lines with
  | nil => cases member
  | cons first later =>
      simp only [intercalate_cons, List.mem_append, List.mem_flatMap, List.mem_cons] at member
      rcases member with start | ⟨line, listed, feed | inside⟩
      · exact .inr ⟨first, List.mem_cons_self, start⟩
      · exact .inl feed
      · exact .inr ⟨line, List.mem_cons_of_mem _ listed, inside⟩

theorem toList_toDocument (registry : Registry) : registry.toDocument.toList =
    ['\n'].intercalate (writtenLines registry.name registry.bindings.entries) := by
  rw [Registry.toDocument, String.toList_ofList, writeRegistry_lines]

theorem control_of_toDocument {registry : Registry} {byte : UInt8}
    (member : byte ∈ bytes registry.toDocument.toList) (control : byte < 0x20) :
    byte = lineFeed := by
  have small : byte.toNat < 0x20 := control
  have value : (Char.ofNat byte.toNat).toNat = byte.toNat :=
    toNat_ofNat_of_valid (.inl (by omega))
  have written := mem_of_ascii member (by omega)
  rw [toList_toDocument] at written
  rcases mem_intercalate written with feed | ⟨line, listed, inside⟩
  · rw [feed] at value
    exact UInt8.toNat_inj.mp value.symm
  · have printed := (printed_writtenLines line listed).le _ inside
    omega

theorem count_toDocument (registry : Registry) :
    (bytes registry.toDocument.toList).count lineFeed =
      if registry.size = 0 then 3 else registry.size + 4 := by
  have unbroken : ∀ line ∈ writtenLines registry.name registry.bindings.entries, '\n' ∉ line :=
    fun line listed => (printed_writtenLines line listed).noLineFeed
  rw [count_lineFeed, toList_toDocument, count_intercalate unbroken, length_writtenLines]
  change (if registry.size = 0 then 4 else registry.size + 5) - 1 = _
  split <;> rfl

theorem getLast?_toDocument (registry : Registry) :
    (bytes registry.toDocument.toList).getLast? ≠ some lineFeed := by
  have brace : bytes "\n\x7d".toList = [0x0A, 0x7D] := rfl
  rw [Registry.toDocument, String.toList_ofList]
  unfold writeRegistry
  rw [bytes_append, brace, List.getLast?_append]
  simp [lineFeed]

end Marks

section Places

theorem getElem?_bindingLines {index : Nat} (bound : bindings[index]? = some binding) :
    (bindingLines bindings)[index]? = some (bindingLine binding) ∨
      (bindingLines bindings)[index]? = some (bindingLine binding ++ [',']) := by
  induction bindings generalizing index with
  | nil => cases bound
  | cons first later ih =>
      cases index with
      | zero =>
          cases bound
          cases later with
          | nil => exact .inl (congrArg some (List.append_nil _))
          | cons second later => exact .inr rfl
      | succ index => exact ih bound

theorem writtenLines_of_bound (bound : bindings ≠ []) : writtenLines name bindings =
    ["\x7b".toList, nameLine name, "  \"enums\": \x7b".toList] ++
      (bindingLines bindings ++ ["  \x7d".toList, "\x7d".toList]) := by
  cases bindings with
  | nil => exact absurd rfl bound
  | cons first later => rw [writtenLines, List.append_assoc]

theorem getElem?_writtenLines {index : Nat} (bound : bindings[index]? = some binding) :
    (writtenLines name bindings)[index + 3]? = some (bindingLine binding) ∨
      (writtenLines name bindings)[index + 3]? = some (bindingLine binding ++ [',']) := by
  have within : index < (bindingLines bindings).length := by
    rw [length_bindingLines]
    exact (List.getElem?_eq_some_iff.mp bound).1
  have place : (writtenLines name bindings)[index + 3]? = (bindingLines bindings)[index]? := by
    rw [writtenLines_of_bound (List.ne_nil_of_mem (List.mem_of_getElem? bound))]
    exact List.getElem?_append_left within
  rw [place]
  exact getElem?_bindingLines bound

theorem bindingLines_append : bindingLines (before ++ binding :: later) =
    before.map (bindingLine · ++ [',']) ++
      (bindingLine binding ++ if later.isEmpty then [] else [',']) :: bindingLines later := by
  induction before with
  | nil => rfl
  | cons first before ih =>
      rw [List.cons_append, bindingLines, ih]
      simp

/-- The line of a binding stands between lines that do not depend on its code. -/
theorem writtenLines_append (title name : String) (before later : List (String × UInt32)) :
    ∃ front mark back, front.length = before.length + 3 ∧
      ∀ code, writtenLines title (before ++ (name, code) :: later) =
        front ++ (bindingLine (name, code) ++ mark) :: back := by
  refine ⟨["\x7b".toList, nameLine title, "  \"enums\": \x7b".toList] ++
    before.map (bindingLine · ++ [',']), if later.isEmpty then [] else [','],
    bindingLines later ++ ["  \x7d".toList, "\x7d".toList], ?_, fun code => ?_⟩
  · rw [List.length_append, List.length_map, Nat.add_comm]
    rfl
  · rw [writtenLines_of_bound (List.append_ne_nil_of_right_ne_nil _ (List.cons_ne_nil _ _)),
      bindingLines_append]
    simp only [List.append_assoc, List.cons_append]

theorem bindingLine_inj {left right : UInt32} {mark : List Char}
    (same : bindingLine (name, left) ++ mark = bindingLine (name, right) ++ mark) :
    left = right := by
  have lines : bindingLine (name, left) = bindingLine (name, right) :=
    List.append_cancel_right same
  have digits := congrArg decimalValue (List.append_cancel_left lines)
  rw [decimalValue_toDigits, decimalValue_toDigits] at digits
  exact UInt32.toNat_inj.mp digits

end Places

/-- Another code for a name that is bound changes the line of the binding and no other one. -/
theorem linesOf_rebound {registry : Registry} {old code : UInt32}
    (found : registry.find? name = some old) (another : code ≠ old) :
    ∃ index front line line' back, registry.bindings.entries[index]? = some (name, old) ∧
      front.length = index + 3 ∧ line ≠ line' ∧
      linesOf registry.toDocument = front ++ line :: back ∧
      linesOf (registry.set name code).value.toDocument = front ++ line' :: back := by
  obtain ⟨before, later, split, placed⟩ := Table.place_of_lookup registry.bindings.ascending found
  obtain ⟨front, mark, back, length, lines⟩ :=
    writtenLines_append registry.name name before later
  have rebound : linesOf (registry.set name code).value.toDocument =
      writtenLines registry.name (before ++ (name, code) :: later) := by
    rw [linesOf_toDocument, ← placed code]
    rfl
  refine ⟨before.length, front, bindingLine (name, old) ++ mark, bindingLine (name, code) ++ mark,
    back, ?_, length, fun same => another (bindingLine_inj same).symm, ?_, ?_⟩
  · rw [split, List.getElem?_append_right (Nat.le_refl _), Nat.sub_self]
    rfl
  · rw [linesOf_toDocument, split, lines]
  · rw [rebound, lines]

/-- A document shows the name of its registry first and then each binding on a line of its own, in
the order of the names' bytes, which is that of their code points. Three lines stand in front of the
first binding. No character of a name is a control character of the document. Another code for a
name that is bound changes one line. -/
theorem document_layout (registry : Registry) : ∃ bindings,
    Sheet registry.name bindings (linesOf registry.toDocument) ∧
    (∀ name code, (name, code) ∈ bindings ↔ registry.find? name = some code) ∧
    bindings.length = registry.size ∧
    bindings.Pairwise (fun first second => bytes first.1.toList < bytes second.1.toList) ∧
    (∀ left right : String, bytes left.toList < bytes right.toList ↔
      left.toList.map Char.toNat < right.toList.map Char.toNat) ∧
    (∀ byte ∈ bytes registry.toDocument.toList, byte < 0x20 → byte = lineFeed) ∧
    (bytes registry.toDocument.toList).count lineFeed =
      (if registry.size = 0 then 3 else registry.size + 4) ∧
    (bytes registry.toDocument.toList).getLast? ≠ some lineFeed ∧
    (∀ index binding, bindings[index]? = some binding → ∃ line, Row binding line ∧
      ((linesOf registry.toDocument)[index + 3]? = some line ∨
        (linesOf registry.toDocument)[index + 3]? = some (line ++ [',']))) ∧
    ∀ name old code, registry.find? name = some old → code ≠ old →
      ∃ index front line line' back, bindings[index]? = some (name, old) ∧
        front.length = index + 3 ∧ line ≠ line' ∧
        linesOf registry.toDocument = front ++ line :: back ∧
        linesOf (registry.set name code).value.toDocument = front ++ line' :: back := by
  refine ⟨registry.bindings.entries, ?_, ?_, rfl, ?_, fun left right => ?_,
    fun byte member => control_of_toDocument member, count_toDocument registry,
    getLast?_toDocument registry, fun index binding bound => ?_,
    fun name old code => linesOf_rebound⟩
  · rw [linesOf_toDocument]
    exact sheet_writtenLines _ _
  · exact fun name code => Table.mem_entries_iff registry.bindings.ascending
  · exact registry.bindings.ascending.imp fun below => bytes_lt (String.lt_iff.mp below)
  · rw [bytes_lt_iff, codePoints_lt_iff]
  · refine ⟨bindingLine binding, row_bindingLine binding, ?_⟩
    rw [linesOf_toDocument]
    exact getElem?_writtenLines bound

theorem document_layout_rebound :
    ∃ front line line' back, front.length = 3 ∧ line ≠ line' ∧
      linesOf ((Registry.named "").bind "\n" 1).toDocument = front ++ line :: back ∧
      linesOf ((Registry.named "").bind "\n" 2).toDocument = front ++ line' :: back := by
  have found : ((Registry.named "").bind "\n" 1).find? "\n" = some 1 := rfl
  obtain ⟨bindings, _, _, size, _, _, _, _, _, _, rebound⟩ :=
    document_layout ((Registry.named "").bind "\n" 1)
  obtain ⟨index, front, line, line', back, place, length, another, lines, lines'⟩ :=
    rebound "\n" 1 2 found (by decide)
  have single : bindings.length = 1 := size
  have within := (List.getElem?_eq_some_iff.mp place).1
  exact ⟨front, line, line', back, by omega, another, lines, lines'⟩

end GraphicsProfile.Document
