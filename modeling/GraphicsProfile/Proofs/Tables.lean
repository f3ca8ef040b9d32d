import GraphicsProfile.Table

namespace GraphicsProfile.Table

variable {α : Type} {table left right : Table α} {entries : List (String × α)}
  {name other : String} {value : α}

/-- The value that a name is given last. -/
def lastWritten? (bindings : List (String × α)) (name : String) : Option α :=
  bindings.reverse.lookup name

theorem lookup_cons_entry (entry : String × α) : (entry :: entries).lookup name =
    if name = entry.1 then some entry.2 else entries.lookup name := by
  rw [List.lookup_cons]
  by_cases same : name = entry.1
  · simp [same]
  · simp [same, beq_eq_false_iff_ne.mpr same]

theorem lookup_place : (place name value entries).lookup other =
    if other = name then some value else entries.lookup other := by
  induction entries with
  | nil => simp [place, lookup_cons_entry]
  | cons entry entries ih =>
      simp only [place]
      by_cases below : name < entry.1
      · simp [below, lookup_cons_entry]
      · by_cases same : name = entry.1
        · simp only [same, String.lt_irrefl, if_false, if_true, lookup_cons_entry]
          split <;> rfl
        · simp only [below, same, if_false, lookup_cons_entry, ih]
          by_cases found : other = entry.1
          · have absent : other ≠ name := fun missed => same (missed.symm.trans found)
            simp [found, found ▸ absent]
          · simp [found]

@[simp]
theorem find?_empty : (empty : Table α).find? name = none := rfl

@[simp]
theorem find?_insert : (table.insert name value).find? other =
    if other = name then some value else table.find? other :=
  lookup_place

theorem find?_erase : (table.erase name).find? other =
    if other = name then none else table.find? other := by
  change (table.entries.filter (·.1 != name)).lookup other =
    if other = name then none else table.entries.lookup other
  induction table.entries with
  | nil => simp
  | cons entry entries ih =>
      by_cases erased : entry.1 = name
      · by_cases found : other = name
        · simpa [erased, found] using ih
        · simpa [erased, found, lookup_cons_entry] using ih
      · by_cases found : other = entry.1
        · simp [erased, found, lookup_cons_entry]
        · simpa [erased, found, lookup_cons_entry] using ih

theorem lastWritten?_cons (binding : String × α) (later : List (String × α)) :
    lastWritten? (binding :: later) name =
      (lastWritten? later name).or (if name = binding.1 then some binding.2 else none) := by
  rw [lastWritten?, List.reverse_cons, List.lookup_append, lookup_cons_entry, List.lookup_nil]
  rfl

theorem lastWritten?_append_single (bindings : List (String × α)) (binding : String × α) :
    lastWritten? (bindings ++ [binding]) name =
      if name = binding.1 then some binding.2 else lastWritten? bindings name := by
  rw [lastWritten?, List.reverse_append, List.reverse_singleton, List.singleton_append,
    lookup_cons_entry, lastWritten?]

/-- Of all bindings of a name the last one stays. -/
theorem find?_foldl_insert (bindings : List (String × α)) :
    (bindings.foldl (fun table binding => table.insert binding.1 binding.2) table).find? name =
      (lastWritten? bindings name).or (table.find? name) := by
  induction bindings generalizing table with
  | nil => rfl
  | cons binding bindings ih =>
      rw [List.foldl_cons, ih, find?_insert, lastWritten?_cons, Option.or_assoc]
      by_cases same : name = binding.1
      · simp [same]
      · simp [same]

theorem find?_ofList (bindings : List (String × α)) :
    (ofList bindings).find? name = lastWritten? bindings name := by
  rw [ofList, find?_foldl_insert, find?_empty, Option.or_none]

theorem foldl_insert_ofList (before later : List (String × α)) (binding : String × α) :
    later.foldl (fun table binding => table.insert binding.1 binding.2)
        ((ofList before).insert binding.1 binding.2) = ofList (before ++ binding :: later) := by
  simp only [ofList, List.foldl_append, List.foldl_cons]

/-- A binding counts as long as its name is not bound again behind it. -/
theorem find?_ofList_append (before later : List (String × α)) (name : String) (value : α) :
    (ofList (before ++ (name, value) :: later)).find? name =
      (lastWritten? later name).or (some value) := by
  rw [← foldl_insert_ofList, find?_foldl_insert, find?_insert, if_pos rfl]

/-- The order in which a table keeps its entries. -/
abbrev Ascending (entries : List (String × α)) : Prop :=
  entries.Pairwise fun first second => first.1 < second.1

theorem lookup_eq_none_of_below (above : ∀ entry ∈ entries, name < entry.1) :
    entries.lookup name = none := by
  rw [List.lookup_eq_none_iff]
  intro entry member
  have below := above entry member
  rw [bne_iff_ne]
  rintro rfl
  exact String.lt_irrefl _ below

/-- The first name of one list cannot stand before all names of another one in which it is found. -/
theorem head_not_below {first second : String × α} {left right : List (String × α)}
    (ascending : Ascending (second :: right))
    (same : ∀ name, (first :: left).lookup name = (second :: right).lookup name) :
    ¬ first.1 < second.1 := by
  intro below
  have above := (List.pairwise_cons.mp ascending).1
  have absent : (second :: right).lookup first.1 = none := by
    apply lookup_eq_none_of_below
    intro entry member
    rcases List.mem_cons.mp member with rfl | member
    · exact below
    · exact String.lt_trans below (above entry member)
  have found := same first.1
  rw [absent, lookup_cons_entry, if_pos rfl] at found
  contradiction

theorem entries_eq_of_lookup {left right : List (String × α)} (leftAscending : Ascending left)
    (rightAscending : Ascending right) (same : ∀ name, left.lookup name = right.lookup name) :
    left = right := by
  induction left generalizing right with
  | nil =>
      cases right with
      | nil => rfl
      | cons entry right =>
          have found := same entry.1
          simp [lookup_cons_entry] at found
  | cons first left ih =>
      cases right with
      | nil =>
          have found := same first.1
          simp [lookup_cons_entry] at found
      | cons second right =>
          have notBelow := head_not_below rightAscending same
          have notAbove := head_not_below leftAscending fun name => (same name).symm
          have sameName : first.1 = second.1 :=
            String.le_antisymm (String.not_lt.mp notAbove) (String.not_lt.mp notBelow)
          have sameValue : first.2 = second.2 := by
            have found := same first.1
            simpa [sameName, lookup_cons_entry] using found
          obtain ⟨leftAbove, leftAscending⟩ := List.pairwise_cons.mp leftAscending
          obtain ⟨rightAbove, rightAscending⟩ := List.pairwise_cons.mp rightAscending
          have sameLater : left = right := by
            refine ih leftAscending rightAscending fun name => ?_
            have found := same name
            by_cases head : name = first.1
            · rw [lookup_eq_none_of_below (head ▸ leftAbove),
                lookup_eq_none_of_below ((head.trans sameName) ▸ rightAbove)]
            · simpa [lookup_cons_entry, head, sameName ▸ head] using found
          rw [Prod.ext sameName sameValue, sameLater]

/-- A table is what its look-ups find. -/
theorem eq_of_find? (same : ∀ name, left.find? name = right.find? name) : left = right := by
  obtain ⟨leftEntries, leftAscending⟩ := left
  obtain ⟨rightEntries, rightAscending⟩ := right
  obtain rfl := entries_eq_of_lookup leftAscending rightAscending same
  rfl

theorem lastWritten?_of_ascending (ascending : Ascending entries) :
    lastWritten? entries name = entries.lookup name := by
  induction entries with
  | nil => rfl
  | cons entry entries ih =>
      obtain ⟨above, ascending⟩ := List.pairwise_cons.mp ascending
      rw [lastWritten?_cons, ih ascending, lookup_cons_entry]
      by_cases same : name = entry.1
      · simp [same, lookup_eq_none_of_below above]
      · simp [same]

theorem ofList_entries (table : Table α) : ofList table.entries = table := by
  apply eq_of_find?
  intro name
  rw [find?_ofList, lastWritten?_of_ascending table.ascending]
  rfl

theorem mem_names_iff : name ∈ table.names ↔ (table.find? name).isSome = true := by
  simp only [names, find?, List.lookup_isSome_iff, List.mem_map, beq_iff_eq]
  refine ⟨fun given => ?_, fun given => ?_⟩
  · obtain ⟨entry, member, rfl⟩ := given
    exact ⟨entry, member, rfl⟩
  · obtain ⟨entry, member, same⟩ := given
    exact ⟨entry, member, same.symm⟩

theorem contains_eq_isSome (table : Table α) (name : String) :
    table.contains name = (table.find? name).isSome := by
  have same : ∀ entry : String × α, (entry.1 == name) = (name == entry.1) :=
    fun entry => Bool.beq_comm
  rw [Bool.eq_iff_iff, contains, find?, List.any_eq_true, List.lookup_isSome_iff]
  simp only [same]

theorem isEmpty_iff (table : Table α) :
    table.isEmpty = true ↔ ∀ name, table.contains name = false := by
  rw [isEmpty, List.isEmpty_iff]
  refine ⟨fun empty name => ?_, fun absent => ?_⟩
  · rw [contains, empty, List.any_nil]
  · refine List.eq_nil_iff_forall_not_mem.mpr fun entry member => ?_
    have found := List.any_eq_false.mp (absent entry.1) entry member
    exact found (beq_self_eq_true entry.1)

theorem names_nodup (table : Table α) : table.names.Nodup := by
  rw [names, List.nodup_iff_pairwise_ne, List.pairwise_map]
  refine table.ascending.imp ?_
  intro first second below same
  rw [same] at below
  exact String.lt_irrefl _ below

theorem size_eq_length_names (table : Table α) : table.size = table.names.length := by
  rw [size, names, List.length_map]

theorem mem_entries_iff (ascending : Ascending entries) :
    (name, value) ∈ entries ↔ entries.lookup name = some value := by
  induction entries with
  | nil => simp
  | cons entry entries ih =>
      obtain ⟨above, ascending⟩ := List.pairwise_cons.mp ascending
      rw [lookup_cons_entry, List.mem_cons]
      by_cases same : name = entry.1
      · have absent : (name, value) ∉ entries := by
          intro member
          have below : entry.1 < name := above _ member
          exact String.lt_irrefl _ (same ▸ below)
        simp [same, Prod.ext_iff, eq_comm, same ▸ absent]
      · have another : (name, value) ≠ entry := fun whole => same (congrArg Prod.fst whole)
        simp only [another, false_or, same, if_false, ih ascending]

/-- A binding of a name that is bound takes the place of the one before. -/
theorem place_of_lookup {old : α} (ascending : Ascending entries)
    (found : entries.lookup name = some old) :
    ∃ before later, entries = before ++ (name, old) :: later ∧
      ∀ value, place name value entries = before ++ (name, value) :: later := by
  induction entries with
  | nil => cases found
  | cons entry entries ih =>
      obtain ⟨above, ascending⟩ := List.pairwise_cons.mp ascending
      rw [lookup_cons_entry] at found
      by_cases same : name = entry.1
      · rw [if_pos same] at found
        cases found
        subst same
        refine ⟨[], entries, rfl, fun value => ?_⟩
        rw [place, if_neg (String.lt_irrefl _), if_pos rfl]
        rfl
      · rw [if_neg same] at found
        obtain ⟨before, later, rfl, placed⟩ := ih ascending found
        have below : entry.1 < name := above (name, old) (by simp)
        refine ⟨entry :: before, later, rfl, fun value => ?_⟩
        rw [place, if_neg (String.lt_asymm below), if_neg same, placed]
        rfl

theorem length_place (ascending : Ascending entries) : (place name value entries).length =
    entries.length + if (entries.lookup name).isSome then 0 else 1 := by
  induction entries with
  | nil => rfl
  | cons entry entries ih =>
      obtain ⟨above, ascending⟩ := List.pairwise_cons.mp ascending
      simp only [place]
      by_cases below : name < entry.1
      · have absent : (entry :: entries).lookup name = none := by
          apply lookup_eq_none_of_below
          intro other member
          rcases List.mem_cons.mp member with rfl | member
          · exact below
          · exact String.lt_trans below (above other member)
        simp [below, absent]
      · by_cases same : name = entry.1
        · simp [same, lookup_cons_entry]
        · simp only [below, same, if_false, lookup_cons_entry, List.length_cons, ih ascending]
          omega

/-- A table grows by the bindings of new names only. -/
theorem size_insert (table : Table α) (name : String) (value : α) :
    (table.insert name value).size =
      table.size + if (table.find? name).isSome then 0 else 1 :=
  length_place table.ascending

end GraphicsProfile.Table
