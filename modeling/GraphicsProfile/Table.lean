/-!
Tables keyed by text and kept in ascending order of their keys.

The order belongs to the type, so two tables with the same bindings are equal, and a listing of a
table is sorted without further work. Keys are compared by code points, which is also the order of
their bytes.
-/

namespace GraphicsProfile

/-- A finite map from names to values. -/
structure Table (α : Type) where
  entries : List (String × α)
  ascending : entries.Pairwise (fun left right => left.1 < right.1)
  deriving DecidableEq

namespace Table

variable {α : Type}

/-- Places a binding into a sorted list, where it displaces a binding of the same name. -/
def place (name : String) (value : α) : List (String × α) → List (String × α)
  | [] => [(name, value)]
  | entry :: rest =>
    if name < entry.1 then (name, value) :: entry :: rest
    else if name = entry.1 then (name, value) :: rest
    else entry :: place name value rest

theorem mem_place {name : String} {value : α} {entries : List (String × α)}
    {entry : String × α} (member : entry ∈ place name value entries) :
    entry = (name, value) ∨ entry ∈ entries := by
  induction entries with
  | nil => exact .inl (List.mem_singleton.mp member)
  | cons head rest ih =>
    simp only [place] at member
    split at member
    · exact List.mem_cons.mp member
    · split at member
      · exact (List.mem_cons.mp member).imp id (List.mem_cons_of_mem head)
      · rcases List.mem_cons.mp member with same | later
        · exact .inr (same ▸ List.mem_cons_self)
        · exact (ih later).imp id (List.mem_cons_of_mem head)

theorem place_ascending (name : String) (value : α) (entries : List (String × α))
    (ascending : entries.Pairwise (fun left right => left.1 < right.1)) :
    (place name value entries).Pairwise (fun left right => left.1 < right.1) := by
  induction entries with
  | nil => exact List.pairwise_singleton _ _
  | cons head rest ih =>
    have parts := List.pairwise_cons.mp ascending
    simp only [place]
    split
    · rename_i below
      refine List.pairwise_cons.mpr ⟨fun entry member => ?_, ascending⟩
      rcases List.mem_cons.mp member with same | later
      · exact same ▸ below
      · exact String.lt_trans below (parts.1 entry later)
    · rename_i notBelow
      split
      · rename_i same
        refine List.pairwise_cons.mpr ⟨fun entry member => ?_, parts.2⟩
        exact same ▸ parts.1 entry member
      · rename_i different
        refine List.pairwise_cons.mpr ⟨fun entry member => ?_, ih parts.2⟩
        rcases mem_place member with placed | old
        · subst placed
          rcases String.le_total name head.1 with lower | upper
          · exact absurd (String.le_antisymm lower (String.not_lt.mp notBelow)) different
          · refine Decidable.byContradiction fun notAbove => different ?_
            exact String.le_antisymm (String.not_lt.mp notAbove) upper
        · exact parts.1 entry old

def empty : Table α := ⟨[], .nil⟩

instance : EmptyCollection (Table α) := ⟨empty⟩

instance : Inhabited (Table α) := ⟨empty⟩

/-- Binds a name. An earlier binding of the name is lost. -/
def insert (table : Table α) (name : String) (value : α) : Table α :=
  ⟨place name value table.entries, place_ascending name value table.entries table.ascending⟩

def erase (table : Table α) (name : String) : Table α :=
  ⟨table.entries.filter (·.1 != name), table.ascending.filter _⟩

def find? (table : Table α) (name : String) : Option α :=
  table.entries.lookup name

def contains (table : Table α) (name : String) : Bool :=
  table.entries.any (·.1 == name)

def names (table : Table α) : List String :=
  table.entries.map (·.1)

def size (table : Table α) : Nat :=
  table.entries.length

def isEmpty (table : Table α) : Bool :=
  table.entries.isEmpty

/-- The table that results from binding every name in turn, so the last binding of a name stays. -/
def ofList (bindings : List (String × α)) : Table α :=
  bindings.foldl (fun table binding => table.insert binding.1 binding.2) empty

end Table

end GraphicsProfile
