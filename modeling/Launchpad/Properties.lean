/-!
# Properties

A finite map from names to texts, kept in ascending order of the names so that equal maps are equal
values and are shown alike. The order of texts is by code points, which is also the order of their
UTF-8 bytes.
-/

namespace Launchpad

/-- Puts an entry at its place among sorted entries, in place of one with the same name. -/
def Properties.insertEntry (name text : String) : List (String × String) → List (String × String)
  | [] => [(name, text)]
  | entry :: rest =>
    if name = entry.1 then (name, text) :: rest
    else if name < entry.1 then (name, text) :: entry :: rest
    else entry :: insertEntry name text rest

/-- Inserting an entry adds no other name. -/
theorem Properties.mem_names_insertEntry {name text other : String}
    {entries : List (String × String)} :
    other ∈ (insertEntry name text entries).map Prod.fst ↔
      other = name ∨ other ∈ entries.map Prod.fst := by
  induction entries with
  | nil => simp [insertEntry]
  | cons entry rest ih =>
    unfold insertEntry
    split
    · simp_all
    · split
      · simp
      · rw [List.map_cons, List.mem_cons, ih, List.map_cons, List.mem_cons]
        exact or_left_comm

/-- Sorted entries stay sorted. -/
theorem Properties.ascending_insertEntry (name text : String) {entries : List (String × String)}
    (ascending : (entries.map Prod.fst).Pairwise (· < ·)) :
    ((insertEntry name text entries).map Prod.fst).Pairwise (· < ·) := by
  induction entries with
  | nil => exact List.pairwise_singleton ..
  | cons entry rest ih =>
    obtain ⟨first, sorted⟩ := List.pairwise_cons.1 ascending
    unfold insertEntry
    split
    · rename_i same
      subst same
      exact ascending
    · rename_i differs
      split
      · rename_i before
        refine List.pairwise_cons.2 ⟨fun other among => ?_, ascending⟩
        obtain rfl | later := List.mem_cons.1 among
        · exact before
        · exact String.lt_trans before (first other later)
      · rename_i after
        refine List.pairwise_cons.2 ⟨fun other among => ?_, ih sorted⟩
        obtain rfl | later := mem_names_insertEntry.1 among
        · exact Std.lt_of_le_of_ne (String.not_lt.1 after) (Ne.symm differs)
        · exact first other later

/-- A finite map from names to texts, as entries in ascending order of the names. -/
structure Properties where
  entries : List (String × String)
  ascending : (entries.map Prod.fst).Pairwise (· < ·)
  deriving DecidableEq, Repr

namespace Properties

/-- The map without entries. -/
def empty : Properties := ⟨[], .nil⟩

instance : Inhabited Properties := ⟨empty⟩

/-- Gives `name` the text `text`. -/
def insert (properties : Properties) (name text : String) : Properties :=
  ⟨insertEntry name text properties.entries, ascending_insertEntry name text properties.ascending⟩

/-- The text of `name`. -/
def get? (properties : Properties) (name : String) : Option String :=
  properties.entries.lookup name

/-- The names, in ascending order. -/
def keys (properties : Properties) : List String := properties.entries.map Prod.fst

/-- Whether there are no entries. -/
def isEmpty (properties : Properties) : Bool := properties.entries.isEmpty

/-- The map with the given entries; of several with one name the last counts. -/
def ofList (pairs : List (String × String)) : Properties :=
  pairs.foldl (fun properties pair => properties.insert pair.1 pair.2) empty

/-- A map with the entries of `extra` inserted, which replace those of the same name. -/
def merge (properties extra : Properties) : Properties :=
  extra.entries.foldl (fun merged entry => merged.insert entry.1 entry.2) properties

@[simp] theorem get?_empty (name : String) : empty.get? name = none := rfl

theorem lookup_insertEntry (name text other : String) (entries : List (String × String)) :
    (insertEntry name text entries).lookup other =
      if other = name then some text else entries.lookup other := by
  induction entries with
  | nil =>
    by_cases same : other = name
    · simp [insertEntry, same]
    · have differs : (other == name) = false := by simp [same]
      simp [insertEntry, List.lookup_cons, same, differs]
  | cons entry rest ih => grind [insertEntry]

@[simp] theorem get?_insert (properties : Properties) (name text other : String) :
    (properties.insert name text).get? other =
      if other = name then some text else properties.get? other :=
  lookup_insertEntry name text other properties.entries

end Properties

end Launchpad
