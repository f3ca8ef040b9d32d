import GraphicsProfile.Proofs.Document.Codes

namespace GraphicsProfile.Document

open Grammar Reader

variable {text spelled behind : List Char} {bindings : List (String × UInt32)}

/-- A document is in order up to a literal, which is read next, whatever it is. The document is
accepted if and only if a spelling and a quote stand there and what is behind them is accepted with
the string that is spelled. -/
def Decodes (document literalText : List Char) (onward : String → Reader Registry) : Prop :=
  ∃ used, document = used ++ literalText ∧ ∀ other,
    wholeDocument (used ++ other) = (literal >>= onward) other ∧
    ∀ registry, (Registry.load (String.ofList (used ++ other))).value = .ok registry ↔
      ∃ spelling decoded behind left, other = spelling ++ '"' :: behind ∧
        Spelling spelling decoded.toList ∧ onward decoded behind = .ok (registry, left)

theorem decodes_of_read {document used literalText : List Char}
    {onward : String → Reader Registry} (split : document = used ++ literalText)
    (read : ∀ other, wholeDocument (used ++ other) = (literal >>= onward) other) :
    Decodes document literalText onward := by
  refine ⟨used, split, fun other => ⟨read other, fun registry => ?_⟩⟩
  simp only [load_ofList_eq_ok_iff, read, bind_eq_ok_iff, literal_eq_ok_iff_spelling]
  constructor
  · rintro ⟨left, decoded, behind, ⟨spelling, split, spelled⟩, success⟩
    exact ⟨spelling, decoded, behind, left, split, spelled, success⟩
  · rintro ⟨spelling, decoded, behind, left, split, spelled, success⟩
    exact ⟨left, decoded, behind, ⟨spelling, split, spelled⟩, success⟩

theorem Decodes.load_eq_ok_iff {document : String} {onward : String → Reader Registry}
    {decoded : String} {registry : Registry} (decodes : Decodes document.toList spelled onward)
    (read : literal spelled = .ok (decoded, behind)) :
    (Registry.load document).value = .ok registry ↔
      ∃ left, onward decoded behind = .ok (registry, left) := by
  obtain ⟨used, split, reads⟩ := decodes
  have whole : (Registry.load (String.ofList document.toList)).value = .ok registry ↔ _ :=
    load_ofList_eq_ok_iff
  rw [String.ofList_toList] at whole
  rw [whole, split, (reads spelled).1, bind_eq_of_ok read]

/-- What follows the name of a binding: a registry that is read has that name bound, and the
document can be ended. -/
structure Binds (onward : String → Reader Registry) : Prop where
  bound : ∀ {name text registry rest}, onward name text = .ok (registry, rest) →
    registry.contains name = true
  ends : ∃ ending, ∀ name, ∃ registry, onward name ending = .ok (registry, [])

theorem behindName_binds {onward : Table UInt32 → Reader Registry} (finishes : Finishes onward) :
    Binds (behindName bindings onward) where
  bound {name _ registry _} success := by
    rw [behindName_eq] at success
    obtain ⟨_, _, _, success⟩ := bind_eq_ok success
    obtain ⟨code, _, _, success⟩ := bind_eq_ok success
    obtain ⟨later, _, _, success⟩ := behindCode_eq_ok_iff.mp success
    have stored : registry.find? name = (Table.lastWritten? later name).or (some code) := by
      rw [Registry.find?, finishes.held success, Table.find?_ofList_append]
    rw [Registry.contains, Table.contains_eq_isSome]
    change (registry.find? name).isSome = true
    simp [stored]
  ends := by
    obtain ⟨ending, ended⟩ := finishes.ends
    refine ⟨':' :: '0' :: '}' :: ending, fun name => ?_⟩
    obtain ⟨registry, read⟩ := ended (Table.ofList (bindings ++ [(name, 0)]))
    have zero : Code ('0' :: '}' :: ending) 0 ('}' :: ending) :=
      .whole (.digits (.last rfl) fun _ => rfl) rfl
    have delimited : Delimited ('}' :: ending) := delimited_of_ending (.inr (.inr rfl))
    refine ⟨registry, ?_⟩
    rw [behindName_eq, bind_eq_of_ok (colon_eq_ok_iff.mpr .none),
      bind_eq_of_ok (codeValue_complete .none zero delimited)]
    exact behindCode_eq_ok_iff.mpr ⟨[], ending, .close .none, read⟩

theorem name_decodes (front : Front text .name ('"' :: spelled)) :
    ∃ onward, Decodes text spelled onward ∧ Names onward := by
  obtain ⟨used, onward, split, names, passes⟩ := nameValue_of_front front
  refine ⟨onward, decodes_of_read (split.trans (List.append_cons ..)) fun other => ?_, names⟩
  have opens : Opens ('"' :: other) := ⟨_, _, .none, rfl, by decide⟩
  rw [List.append_assoc]
  exact passes _ opens

theorem memberKey_decodes (quote : MemberQuote text spelled) :
    ∃ draft, Decodes text spelled fun key => documentMember key draft >>= furtherMembers := by
  obtain ⟨before, leading, unrepeated, opening⟩ := quote
  obtain ⟨used, split, passes⟩ := wholeDocument_of_opening before leading
    (accepted_iff_unrepeated.mpr ⟨unrepeated, rfl⟩) opening
  exact ⟨_, decodes_of_read split passes⟩

theorem bindingName_decodes (quote : BindingQuote text spelled) :
    ∃ onward, Decodes text spelled onward ∧ Binds onward := by
  obtain ⟨front, leading, opening⟩ := quote
  obtain ⟨used, onward, split, finishes, passes⟩ := bindingName_of_front front leading opening
  exact ⟨_, decodes_of_read split passes, behindName_binds finishes⟩

theorem writeLiteral_spelling (decoded : String) :
    ∃ spelling, writeLiteral decoded = '"' :: (spelling ++ ['"']) ∧
      Spelling spelling decoded.toList := by
  obtain ⟨spelling, same, written⟩ := literal_iff_spelling.mp
    (literal_flatMap_writeChar decoded.toList : Literal (_ ++ '"' :: []) _ [])
  exact ⟨spelling, congrArg (List.cons '"') same, written⟩

/-- A literal is decoded if and only if a spelling stands in front of its closing quote, and as the
string that is spelled; the reader stops behind that quote. No text spells two strings, one of the
spellings of a string is what the writer writes, and surrogates are read in pairs only. The name of
a document, the keys of its members and the names of its bindings are decoded so. -/
theorem literals_decode_spellings :
    (∀ text decoded rest, literal text = .ok (decoded, rest) ↔
      ∃ spelling, text = spelling ++ '"' :: rest ∧ Spelling spelling decoded.toList) ∧
    (∀ spelling left right, Spelling spelling left → Spelling spelling right → left = right) ∧
    (∀ decoded, ∃ spelling, writeLiteral decoded = '"' :: (spelling ++ ['"']) ∧
      Spelling spelling decoded.toList) ∧
    (∀ front written word unit behind decoded rest, Spelling front written → HexWord word unit →
      0xD800 ≤ unit → unit ≤ 0xDFFF →
      literal (front ++ '\\' :: 'u' :: (word ++ behind)) = .ok (decoded, rest) →
      unit ≤ 0xDBFF ∧ ∃ partner low more, behind = '\\' :: 'u' :: (partner ++ more) ∧
        HexWord partner low ∧ 0xDC00 ≤ low ∧ low ≤ 0xDFFF) ∧
    (∀ document name, Front document .name ('"' :: name) →
      ∃ onward, Decodes document name onward ∧ Names onward) ∧
    (∀ document key, MemberQuote document key →
      ∃ draft, Decodes document key fun key => documentMember key draft >>= furtherMembers) ∧
    ∀ document name, BindingQuote document name →
      ∃ onward, Decodes document name onward ∧ Binds onward := by
  refine ⟨fun _ _ _ => literal_eq_ok_iff_spelling, fun _ _ _ => Spelling.unique,
    writeLiteral_spelling, fun _ _ _ _ _ _ _ spelling written low high success => ?_,
    fun _ _ => name_decodes, fun _ _ => memberKey_decodes, fun _ _ => bindingName_decodes⟩
  obtain ⟨_, _, behind⟩ := (literal_eq_ok_iff.mp success).behind_spelling spelling
  exact behind.surrogate_pair written low high

theorem literals_decode_spellings_pair :
    (∀ rest, literal ("\\ud83D\\uDE00".toList ++ '"' :: rest) = .ok ("😀", rest)) ∧
    (∀ result, literal "\\uDE00\\ud83D\"".toList ≠ .ok result) ∧
    (∀ registry, (Registry.load "[\"\\ud83D\\uDE00\"]").value = .ok registry →
      registry.name = "😀") ∧
    ∀ registry, (Registry.load "[\"\",\x7b\"\\ud83D\\uDE00\":1\x7d]").value = .ok registry →
      registry.contains "😀" = true := by
  obtain ⟨exact, _, _, paired, named, _, bound⟩ := literals_decode_spellings
  have high : HexWord "d83D".toList (0xd * 0x1000 + 0x8 * 0x100 + 0x3 * 0x10 + 0xD) :=
    .digits (.inl rfl) (.inl rfl) (.inl rfl) (.inr rfl)
  have low : HexWord "DE00".toList (0xD * 0x1000 + 0xE * 0x100 + 0x0 * 0x10 + 0x0) :=
    .digits (.inr rfl) (.inr rfl) (.inl rfl) (.inl rfl)
  have leading : HexWord "d83D".toList (0xD800 + 0x3D) := high
  have trailing : HexWord "DE00".toList (0xDC00 + 0x200) := low
  have pair : Spells ('\\' :: 'u' :: "d83D".toList ++ '\\' :: 'u' :: "DE00".toList) '😀' :=
    .pair leading trailing (by decide) (by decide) rfl
  have read : ∀ rest, literal ("\\ud83D\\uDE00".toList ++ '"' :: rest) = .ok ("😀", rest) :=
    fun rest => (exact _ _ _).mpr ⟨_, rfl, .piece pair .empty⟩
  refine ⟨read, fun result success => ?_, fun registry accepted => ?_, fun registry accepted => ?_⟩
  · obtain ⟨leading, _⟩ := paired [] [] _ _ _ _ _ .empty low (by decide) (by decide) success
    exact absurd leading (by decide)
  · have front : Front "[\"\\ud83D\\uDE00\"]".toList .name
        ('"' :: ("\\ud83D\\uDE00".toList ++ '"' :: [']'])) := .nameElement .none .none
    obtain ⟨onward, decodes, names⟩ := named _ _ front
    obtain ⟨left, success⟩ := (decodes.load_eq_ok_iff (read _)).mp accepted
    exact names.held success
  · have empty : Literal ('"' :: ",\x7b\"\\ud83D\\uDE00\":1\x7d]".toList) "".toList _ := .close
    have front : Front "[\"\",\x7b\"\\ud83D\\uDE00\":1\x7d]".toList .bindings
        ('{' :: '"' :: ("\\ud83D\\uDE00".toList ++ '"' :: ":1\x7d]".toList)) :=
      .bindingsElement .none .none empty .none .none
    obtain ⟨onward, decodes, binds⟩ := bound _ _ (.quote front .none .none)
    obtain ⟨left, success⟩ := (decodes.load_eq_ok_iff (read _)).mp accepted
    exact binds.bound success

end GraphicsProfile.Document
