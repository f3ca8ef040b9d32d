import GraphicsProfile.Proofs.Document.Passing
import GraphicsProfile.Proofs.Document.Reports

/-! Documents that are cut off and documents that go on.

A document that is read ends at a closing bracket and at blanks behind it. What is cut off in front
of that bracket is refused for want of text, and what goes on behind it is refused as trailing. -/

namespace GraphicsProfile.Document

open Grammar Reader Text

variable {front cut text rest behind members last : List Char} {registry held : Registry}
  {draft : Draft} {contribution : Contribution} {contributions values : List Contribution}

theorem blanks_nil_iff : Blanks text [] ↔ ∀ char ∈ text, Blank char := by
  refine ⟨fun blanks => ?_, fun blank => ?_⟩
  · obtain ⟨gap, rfl, blank⟩ := blanks.exists_gap
    rwa [List.append_nil]
  · simpa using blanks_of_forall blank []

/-- Where a document is cut: behind its closing bracket, and then only blanks have been cut off, or
in front of that bracket, and then the document is no longer read. -/
theorem readRegistry_cut (accepted : readRegistry (front ++ cut) = .ok registry) :
    ((∀ char ∈ cut, Blank char) ∧ readRegistry front = .ok registry) ∨
      (∃ char ∈ cut, ¬ Blank char) ∧ ∀ held, readRegistry front ≠ .ok held := by
  obtain ⟨draft, behind, read, after, described⟩ := readRegistry_eq_ok_iff_draft.mp accepted
  obtain ⟨used, mark, split, visible, closes⟩ := documentValue_closed read
  have inFront : ∀ {between : List Char}, cut = between ++ mark :: behind →
      (∃ char ∈ cut, ¬ Blank char) ∧ ∀ held, readRegistry front ≠ .ok held := by
    rintro between rfl
    refine ⟨⟨mark, by simp, isBlank_eq_false_iff.mp visible⟩, fun held whole => ?_⟩
    obtain ⟨draft', behind', read', _⟩ := readRegistry_eq_ok_iff_draft.mp whole
    obtain ⟨used', mark', rfl, _, closes'⟩ := documentValue_closed read'
    have again := closes' (behind' ++ (between ++ mark :: behind))
    rw [← List.cons_append, ← List.append_assoc] at again
    have same := congrArg (fun result => result.map fun value => value.2.length)
      (read.symm.trans again)
    simp [Except.map] at same
    omega
  -- The cut is in front of the closing mark, right at it, or behind it.
  rcases List.append_eq_append_iff.mp split with ⟨between, -, behindFront⟩ | ⟨between, rfl, ahead⟩
  · exact .inr (inFront behindFront)
  · cases between with
    | nil =>
        have atMark : cut = [] ++ mark :: behind := ahead.symm
        exact .inr (inFront atMark)
    | cons first between =>
        rw [List.cons_append, List.cons.injEq] at ahead
        obtain ⟨rfl, rfl⟩ := ahead
        have blank := blanks_nil_iff.mp after
        refine .inl ⟨fun char member => blank char (List.mem_append_right _ member), ?_⟩
        refine readRegistry_eq_ok_iff_draft.mpr ⟨draft, between, closes between, ?_, described⟩
        exact blanks_nil_iff.mpr fun char member => blank char (List.mem_append_left _ member)

/-- A document that is cut in front of its closing bracket wants more text at its end, unless the
cut goes through a number without meaning in front of a digit that it needs. -/
theorem truncated_of_cut (accepted : readRegistry (front ++ cut) = .ok registry)
    (refused : ∀ held, readRegistry front ≠ .ok held) :
    ∃ fault, readRegistry front = .error fault ∧
      (¬ CutInNumber front → fault.cause.category = .truncated ∧ fault.left = 0) := by
  cases read : readRegistry front with
  | ok held => exact absurd read (refused held)
  | error fault =>
      refine ⟨fault, rfl, fun noNumber => ?_⟩
      have stopped := readRegistry_eq_error_iff.mp read
      have truncated : fault.cause.category = .truncated := by
        refine Classical.byContradiction fun category => ?_
        rcases wholeDocument_orderly.refused stopped category with inNumber | never
        · exact noNumber inNumber
        · rw [readRegistry] at accepted
          cases whole : wholeDocument (front ++ cut) with
          | error other =>
              rw [whole] at accepted
              cases accepted
          | ok result => exact never cut result whole
      exact ⟨truncated, wholeDocument_orderly.ended stopped truncated⟩

theorem within_of_ended {fault : Fault} (ended : fault.left = 0) :
    (fault.within text).position = .after (bytes text) := by
  simp only [Fault.within, ended, Nat.sub_zero, ← length_bytes, List.take_length]

/-- A document from which more than blanks has been cut off. -/
theorem load_refused_of_cut {document : String}
    (accepted : readRegistry (document.toList ++ cut) = .ok registry)
    (more : ∃ char ∈ cut, ¬ Blank char) :
    ∃ error, Registry.load document = ⟨.error (.badDocument error), []⟩ ∧
      (¬ CutInNumber document.toList → error.category.label = "eof" ∧
        error.position = .after (bytes document.toList)) := by
  rcases readRegistry_cut accepted with ⟨blank, _⟩ | ⟨_, refused⟩
  · obtain ⟨char, member, visible⟩ := more
    exact absurd (blank char member) visible
  · obtain ⟨fault, read, wanting⟩ := truncated_of_cut accepted refused
    refine ⟨_, load_of_fault read, fun noNumber => ?_⟩
    obtain ⟨truncated, ended⟩ := wanting noNumber
    have category : (fault.within document.toList).category = .truncated := truncated
    exact ⟨by rw [category]; rfl, within_of_ended ended⟩

section Suffixes

variable {α : Type} {item : List Char → α → List Char → Prop} {items : List α} {key : String}
  {row value : List Char} {binding : String × UInt32}

theorem Grammar.Blanks.suffix (blanks : Blanks text rest) : rest <:+ text := by
  obtain ⟨gap, rfl, _⟩ := blanks.exists_gap
  exact List.suffix_append gap rest

theorem Grammar.Blanks.suffix_behind {mark : Char} (blanks : Blanks text (mark :: rest)) :
    rest <:+ text :=
  (List.suffix_cons mark rest).trans blanks.suffix

theorem Grammar.Literal.suffix {decoded : List Char} (form : Literal text decoded rest) :
    rest <:+ text := by
  obtain ⟨spelling, rfl, _⟩ := literal_iff_spelling.mp form
  exact (List.suffix_cons '"' rest).trans (List.suffix_append spelling _)

theorem Grammar.Whole.suffix (form : Whole text row rest) : rest <:+ text := by
  obtain ⟨digits, _⟩ := form
  obtain ⟨rfl, _⟩ := digits.exists_decimals
  exact List.suffix_append row rest

theorem Grammar.Fraction.suffix (form : Fraction text rest) : rest <:+ text := by
  obtain ⟨part, rfl, _⟩ := form.exists_part
  exact List.suffix_append part rest

theorem Grammar.Value.suffix (form : Value text rest) : rest <:+ text := by
  obtain ⟨complete, rfl, _⟩ := exists_complete form
  exact List.suffix_append complete rest

theorem Grammar.Key.suffix (form : Key text key rest) : rest <:+ text := by
  obtain ⟨before, spelled, around⟩ := form
  exact (around.suffix_behind.trans spelled.suffix).trans before.suffix_behind

theorem Grammar.LooseKey.suffix (form : LooseKey text value) : value <:+ text := by
  obtain ⟨before, name, around, space⟩ := form
  obtain ⟨label, rfl, _⟩ := exists_label before name around space
  exact List.suffix_append label value

theorem Grammar.Binding.suffix (form : Binding text binding rest) : rest <:+ text := by
  obtain ⟨key, space, ⟨whole, _⟩⟩ := form
  exact (whole.suffix.trans space.suffix).trans key.suffix

theorem Grammar.Leading.suffix
    (each : ∀ {text value rest}, item text value rest → rest <:+ text)
    (leading : Leading item text items rest) : rest <:+ text := by
  induction leading with
  | none => exact List.suffix_rfl
  | more first comma _ ih => exact (ih.trans comma.suffix_behind).trans (each first)

theorem Grammar.Enclosed.suffix
    (each : ∀ {text value rest}, item text value rest → rest <:+ text)
    (form : Enclosed item text items rest) : rest <:+ text := by
  cases form with
  | empty blanks => exact blanks.suffix_behind
  | items leading final close =>
      exact (close.suffix_behind.trans (each final)).trans (leading.suffix each)

theorem Grammar.Member.suffix (form : Member text contribution rest) : rest <:+ text := by
  cases form with
  | name key space spelled => exact (spelled.suffix.trans space.suffix_behind).trans key.suffix
  | bindings key space form =>
      exact ((form.suffix Binding.suffix).trans space.suffix_behind).trans key.suffix
  | other key _ _ space form => exact (form.suffix.trans space.suffix).trans key.suffix

theorem Grammar.Element.suffix {meaning : Unit} (form : Element text meaning rest) :
    rest <:+ text := by
  obtain ⟨before, form⟩ := form
  exact form.suffix.trans before.suffix

theorem Grammar.Pair.suffix {meaning : Unit} (form : Pair text meaning rest) : rest <:+ text := by
  obtain ⟨key, form⟩ := form
  exact form.suffix.trans key.suffix

theorem Grammar.Within.suffix (within : Within text rest) : rest <:+ text := by
  induction within with
  | here => exact List.suffix_rfl
  | element leading before _ ih =>
      have inside := (ih.trans before.suffix).trans (leading.suffix Element.suffix)
      exact inside.trans (List.suffix_cons '[' _)
  | member leading key _ ih =>
      have inside := (ih.trans key.suffix).trans (leading.suffix Pair.suffix)
      exact inside.trans (List.suffix_cons '{' _)

end Suffixes

section Marks

theorem Grammar.UnfinishedUnsigned.ends (unfinished : UnfinishedUnsigned text) :
    ∃ mark ∈ ['-', '+', '.', 'e', 'E'], [mark] <:+ text := by
  cases unfinished with
  | fraction whole => exact ⟨'.', by decide, whole.suffix⟩
  | @exponent _ _ _ mark whole fraction marked sign =>
      have reached := fraction.suffix.trans whole.suffix
      cases sign with
      | none => rcases marked with rfl | rfl <;> exact ⟨_, by decide, reached⟩
      | plus => exact ⟨'+', by decide, (List.suffix_cons mark ['+']).trans reached⟩
      | minus => exact ⟨'-', by decide, (List.suffix_cons mark ['-']).trans reached⟩

theorem Grammar.UnfinishedNumber.ends (unfinished : UnfinishedNumber text) :
    ∃ mark ∈ ['-', '+', '.', 'e', 'E'], [mark] <:+ text := by
  cases unfinished with
  | sign => exact ⟨'-', by decide, List.suffix_rfl⟩
  | plain unsigned => exact unsigned.ends
  | negative unsigned =>
      obtain ⟨mark, listed, last⟩ := unsigned.ends
      exact ⟨mark, listed, last.trans (List.suffix_cons '-' _)⟩

/-- A document that is cut inside a number ends in a mark behind which a digit has to follow. -/
theorem Grammar.CutInNumber.getLast? (cut : CutInNumber text) :
    ∃ mark ∈ ['-', '+', '.', 'e', 'E'], text.getLast? = some mark := by
  obtain ⟨before, leading, ⟨key, _, _, space, within, unfinished⟩⟩ := cut
  obtain ⟨mark, listed, last⟩ := unfinished.ends
  have member := (within.suffix.trans space.suffix).trans key.suffix
  have whole := (member.trans (leading.suffix Member.suffix)).trans before.suffix_behind
  obtain ⟨front, rfl⟩ := last.trans whole
  exact ⟨mark, listed, List.getLast?_concat⟩

end Marks

section Written

theorem accept_empty (contribution : Contribution) :
    ∃ next, Draft.empty.accept contribution = some next := by
  cases contribution <;> exact ⟨_, rfl⟩

/-- A member that is delimited ends where it ends, however the text goes on. -/
theorem member_behind {contribution' : Contribution} {behind' : List Char}
    (form : Member text contribution behind) (nonempty : behind ≠ []) (delimited : Delimited behind)
    (form' : Member (text ++ cut) contribution' behind') (delimited' : Delimited behind') :
    behind' = behind ++ cut := by
  obtain ⟨next, accepted⟩ := accept_empty contribution
  obtain ⟨next', accepted'⟩ := accept_empty contribution'
  have sequential : Sequential Never (keyedMember documentMember Draft.empty) :=
    keyedMember_sequential (fun key draft => (documentMember_firm key draft).toSequential) _
  have read := sequential.extend (documentLaw.complete form delimited accepted) nonempty cut
  have read' := documentLaw.complete form' delimited' accepted'
  have same := read'.symm.trans read
  cases same
  rfl

theorem openKey_of_key {key : String} {separated : List Char} (form : Key text key separated) :
    ∃ colon, openKey (skipBlanks text) = .ok (key, colon) ∧ colon ≠ [] ∧ skipBlanks text ≠ [] := by
  obtain ⟨before, spelled, around⟩ := form
  have found := skipBlanks_eq_cons_iff.mpr ⟨before, rfl⟩
  refine ⟨_, openKey_eq_ok_iff.mpr ⟨_, found, spelled⟩, ?_, by simp [found]⟩
  rintro rfl
  cases around

/-- A key is the same key, however the text goes on. -/
theorem key_unique {key key' : String} {separated separated' : List Char}
    (form : Key text key separated) (form' : Key (text ++ cut) key' separated') : key = key' := by
  obtain ⟨colon, read, more, found⟩ := openKey_of_key form
  obtain ⟨colon', read', _, _⟩ := openKey_of_key form'
  rw [skipBlanks_append found, openKey_sequential.extend read more cut] at read'
  cases read'
  rfl

theorem member_key (form : Member text contribution rest) :
    ∃ key separated, Key text key separated ∧
      (contribution ≠ .nothing → key = Field.name.key ∨ key = Field.bindings.key) := by
  cases form with
  | name key _ _ => exact ⟨_, _, key, fun _ => .inl rfl⟩
  | bindings key _ _ => exact ⟨_, _, key, fun _ => .inr rfl⟩
  | other key _ _ _ _ => exact ⟨_, _, key, fun meaning => absurd rfl meaning⟩

/-- A document in whose front a member without meaning has been cut has such a member. -/
theorem nothing_of_cut {value : Contribution} {between : List Char}
    (leading : Leading Member text contributions last) (cutMember : CutMember last)
    (form : Member (text ++ cut) value between) (remaining : Remaining Member between values rest) :
    Contribution.nothing ∈ value :: values := by
  induction leading generalizing value values between with
  | none =>
      obtain ⟨key, separated, keyed, meaning⟩ := member_key form
      obtain ⟨unknownKey, unnamed, unbound, _, _, _⟩ := cutMember
      cases key_unique unknownKey keyed
      have nothing : value = .nothing := by
        refine Classical.byContradiction fun other => ?_
        rcases meaning other with named | bound
        · exact unnamed named
        · exact unbound bound
      rw [nothing]
      exact List.mem_cons_self
  | @more _ behind _ _ _ _ first comma others ih =>
      have nonempty : behind ≠ [] := by
        rintro rfl
        cases comma
      have ended :=
        member_behind first nonempty (comma.delimited (.inl rfl)) form remaining.delimited
      subst ended
      cases remaining with
      | close blanks => cases (comma.append cut).mark_unique blanks rfl rfl
      | next comma' first' others' =>
          cases (comma.append cut).mark_unique comma' rfl rfl
          exact List.mem_cons_of_mem _ (ih cutMember first' others')

theorem written_members (registry : Registry) :
    ∃ members between, writeRegistry registry = '{' :: members ∧
      Member members (.name registry.name) between ∧
      Remaining Member between [.bindings registry.bindings.entries] [] := by
  have close : Blanks "\n\x7d".toList ('}' :: []) := .more (by decide) .none
  exact ⟨_, _, writeRegistry_eq registry, name_of_written registry,
    .next .none (bindings_of_written registry.bindings.entries) (.close close)⟩

/-- What has been written has no member without meaning, so no front of it is cut in one. -/
theorem not_cutInNumber_of_written (written : writeRegistry registry = front ++ cut) :
    ¬ CutInNumber front := by
  rintro ⟨before, leading, cutMember⟩
  obtain ⟨members, between, split, name, bindings⟩ := written_members registry
  have opening := before.append cut
  rw [← written, split] at opening
  have same := (List.cons.inj (opening.mark_unique .none rfl rfl)).2
  change _ ++ cut = members at same
  subst same
  have nothing := nothing_of_cut leading cutMember name bindings
  simp at nothing

theorem last_of_written (registry : Registry) : (writeRegistry registry).getLast? = some '}' := by
  have last : "\n\x7d".toList = ['\n'] ++ ['}'] := by decide
  unfold writeRegistry
  rw [last, ← List.append_assoc, List.getLast?_concat]

end Written

theorem load_of_trailing {document : String} {blanks : List Char} {char : Char}
    (accepted : readRegistry text = .ok registry) (blank : ∀ char ∈ blanks, Blank char)
    (visible : ¬ Blank char)
    (goesOn : document.toList = text ++ (blanks ++ char :: rest)) :
    Registry.load document = ⟨.error (.badDocument ⟨.trailingCharacters,
      .after ((bytes document.toList).take (byteSize text + byteSize blanks + 1))⟩), []⟩ := by
  obtain ⟨draft, behind, read, after, _⟩ := readRegistry_eq_ok_iff_draft.mp accepted
  obtain ⟨used, mark, rfl, _, closes⟩ := documentValue_closed read
  have onward := closes (behind ++ (blanks ++ char :: rest))
  have found : skipBlanks (behind ++ (blanks ++ char :: rest)) = char :: rest := by
    have skipped : Blanks (blanks ++ char :: rest) (char :: rest) :=
      (blanks_nil_iff.mpr blank).append (char :: rest)
    exact skipBlanks_eq_cons_iff.mpr
      ⟨(after.append _).trans skipped, isBlank_eq_false_iff.mpr visible⟩
  have ending : documentEnd (behind ++ (blanks ++ char :: rest)) =
      .error (Cause.trailingCharacters.behindByte (char :: rest)) := by
    simp only [documentEnd, found]
  have stopped : wholeDocument document.toList =
      .error (Cause.trailingCharacters.behindByte (char :: rest)) := by
    rw [goesOn, List.append_assoc, List.cons_append]
    exact (bind_eq_of_ok onward).trans (bind_eq_of_error ending)
  have positive := char.utf8Size_pos
  have place : byteSize document.toList - (byteSize (char :: rest) - 1) =
      byteSize (used ++ mark :: behind) + byteSize blanks + 1 := by
    rw [goesOn, byteSize_append, byteSize_append blanks, byteSize_cons char]
    omega
  rw [load_of_fault (readRegistry_eq_error_iff.mpr stopped)]
  simp only [Fault.within, Cause.behindByte, place]

/-- A front of a document is read if and only if nothing but blanks has been cut off, and then as
the document is. -/
theorem load_front {front cut : String}
    (accepted : readRegistry (front.toList ++ cut.toList) = .ok registry) :
    ((∃ held, (Registry.load front).value = .ok held) ↔
      ∀ char ∈ cut.toList, Blank char) ∧
    ((∀ char ∈ cut.toList, Blank char) →
      (Registry.load front).value = .ok registry) := by
  rcases readRegistry_cut accepted with ⟨blank, read⟩ | ⟨⟨char, member, visible⟩, refused⟩
  · have whole := load_value_eq_ok_iff.mpr read
    exact ⟨iff_of_true ⟨registry, whole⟩ blank, fun _ => whole⟩
  · have notBlank : ¬ ∀ char ∈ cut.toList, Blank char :=
      fun blank => visible (blank char member)
    refine ⟨iff_of_false ?_ notBlank, fun blank => absurd blank notBlank⟩
    rintro ⟨held, read⟩
    exact refused held (load_value_eq_ok_iff.mp read)

theorem load_refused_of_written {front cut : String}
    (written : registry.toDocument = front ++ cut) (nonempty : cut ≠ "") :
    ∃ error, Registry.load front = ⟨.error (.badDocument error), []⟩ ∧
      error.category.label = "eof" ∧ error.position = .after (bytes front.toList) := by
  have split : writeRegistry registry = front.toList ++ cut.toList := by
    rw [← String.toList_append, ← written, Registry.toDocument, String.toList_ofList]
  have accepted := readRegistry_of_describes (describes_writeRegistry registry)
  have some : cut.toList ≠ [] := fun empty => nonempty (String.toList_inj.mp empty)
  have last := last_of_written registry
  rw [split, List.getLast?_append_of_ne_nil _ some] at last
  rw [split] at accepted
  obtain ⟨error, refused, wanting⟩ :=
    load_refused_of_cut accepted ⟨'}', List.mem_of_getLast? last, by decide⟩
  exact ⟨error, refused, wanting (not_cutInNumber_of_written split)⟩

/-- The end of a document is where it is closed. In front of it the document is refused for want of
text, behind it only blanks are accepted, and they change nothing. -/
theorem load_ends_at_close :
    (∀ (front cut : String) (registry : Registry),
      (Registry.load (front ++ cut)).value = .ok registry →
        ((∃ held, (Registry.load front).value = .ok held) ↔
          ∀ char ∈ cut.toList, Blank char) ∧
        ((∀ char ∈ cut.toList, Blank char) →
          (Registry.load front).value = .ok registry) ∧
        ((∃ char ∈ cut.toList, ¬ Blank char) → ∃ error,
          Registry.load front = ⟨.error (.badDocument error), []⟩ ∧
            (¬ CutInNumber front.toList → error.category.label = "eof" ∧
              error.position = .after (bytes front.toList)))) ∧
    (∀ (registry : Registry) (front cut : String), registry.toDocument = front ++ cut → cut ≠ "" →
      ∃ error, Registry.load front = ⟨.error (.badDocument error), []⟩ ∧
        error.category.label = "eof" ∧ error.position = .after (bytes front.toList)) ∧
    ∀ (document more : String) (registry : Registry) (blanks rest : List Char) (char : Char),
      (Registry.load document).value = .ok registry → more.toList = blanks ++ char :: rest →
      (∀ blank ∈ blanks, Blank blank) → ¬ Blank char →
        Registry.load (document ++ more) = ⟨.error (.badDocument ⟨.trailingCharacters,
          .after ((bytes (document ++ more).toList).take
            ((bytes document.toList).length + (bytes blanks).length + 1))⟩), []⟩ := by
  refine ⟨fun front cut registry accepted => ?_, fun registry front cut written nonempty => ?_,
    fun document more registry blanks rest char accepted goesOn blank visible => ?_⟩
  · have whole := load_value_eq_ok_iff.mp accepted
    rw [String.toList_append] at whole
    obtain ⟨iff, same⟩ := load_front whole
    exact ⟨iff, same, load_refused_of_cut whole⟩
  · exact load_refused_of_written written nonempty
  · have split : (document ++ more).toList = document.toList ++ (blanks ++ char :: rest) := by
      rw [String.toList_append, goesOn]
    rw [length_bytes, length_bytes]
    exact load_of_trailing (load_value_eq_ok_iff.mp accepted) blank visible split

theorem load_ends_at_close_ignored :
    (Registry.load "\x7b\"name\":\"é\",\"x\":[1.5],\"enums\":\x7b\"b\":7\x7d\x7d").value =
      .ok ((Registry.named "é").bind "b" 7) ∧
    (∃ error, Registry.load "\x7b\"name\":\"é\",\"x\":[1.5" = ⟨.error (.badDocument error), []⟩ ∧
      error.category.label = "eof" ∧ error.position = ⟨1, 21⟩) ∧
    (∃ error, Registry.load "\x7b\n  \"name\": \"é\",\n  \"enums\": \x7b\n    \"b\"" =
        ⟨.error (.badDocument error), []⟩ ∧
      error.category.label = "eof" ∧ error.position = ⟨4, 7⟩) ∧
    Registry.load "\x7b\"name\":\"é\",\"x\":[1.5],\"enums\":\x7b\"b\":7\x7d\x7d \n \x7d" =
      ⟨.error (.badDocument ⟨.trailingCharacters, ⟨2, 2⟩⟩), []⟩ := by
  obtain ⟨cut, written, trailing⟩ := load_ends_at_close
  have longer : (Registry.load
      "\x7b\"name\":\"é\",\"x\":[1.5],\"enums\":\x7b\"b\":7\x7d\x7d\n").value =
        .ok ((Registry.named "é").bind "b" 7) := by with_unfolding_all rfl
  have lineFeed : ∀ char ∈ "\n".toList, Blank char :=
    List.forall_mem_singleton.mpr (.inr (.inl rfl))
  have accepted := (cut "\x7b\"name\":\"é\",\"x\":[1.5],\"enums\":\x7b\"b\":7\x7d\x7d" "\n" _
    longer).2.1 lineFeed
  obtain ⟨error, refused, wanting⟩ := (cut "\x7b\"name\":\"é\",\"x\":[1.5"
    "],\"enums\":\x7b\"b\":7\x7d\x7d" _ accepted).2.2 ⟨']', List.mem_cons_self, by decide⟩
  have noNumber : ¬ CutInNumber "\x7b\"name\":\"é\",\"x\":[1.5".toList := by
    intro number
    -- The number is whole as far as it goes: its last character is a digit.
    obtain ⟨mark, listed, last⟩ := number.getLast?
    cases last
    exact absurd listed (by decide)
  have opening := written ((Registry.named "é").bind "b" 7)
    "\x7b\n  \"name\": \"é\",\n  \"enums\": \x7b\n    \"b\"" ": 7\n  \x7d\n\x7d"
    (by with_unfolding_all rfl) (by decide)
  have blanks : ∀ char ∈ [' ', '\n', ' '], Blank char := by simp [Blank]
  have behind := trailing _ " \n \x7d" _ [' ', '\n', ' '] [] '}' accepted (by decide) blanks
    (by decide)
  exact ⟨accepted, ⟨error, refused, wanting noNumber⟩, opening, behind⟩

end GraphicsProfile.Document
