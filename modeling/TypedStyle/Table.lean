import TypedStyle.Text.Ascending
/-!
# Tables

A table gives a value to each of finitely many texts, its keys.  The entries stand in ascending
order of their keys, so a table is determined by the values it gives.

* `mem_entries_iff_get?` — looking a key up finds the entry that is there.
-/

namespace TypedStyle

/-- A finite map from texts, with its entries in ascending order of the keys. -/
structure Table (α : Type) where
  entries : List (Text × α)
  ascending : entries.Pairwise fun a b => a.1 < b.1

namespace Table

variable {α : Type}

/-- The table without entries. -/
def empty : Table α := ⟨[], .nil⟩

instance : Inhabited (Table α) := ⟨empty⟩

/-- The keys, in ascending order. -/
def keys (table : Table α) : List Text :=
  table.entries.map (·.1)

/-- The number of entries. -/
def size (table : Table α) : Nat :=
  table.entries.length

/-- The value of a key, if it has one. -/
def get? (table : Table α) (key : Text) : Option α :=
  table.entries.lookup key

/-- Without entries no key has a value. -/
theorem get?_of_size_eq_zero {table : Table α} (h : table.size = 0) (key : Text) :
    table.get? key = none := by
  rw [get?, List.length_eq_zero_iff.mp h, List.lookup_nil]

/-- Puts an entry at its place, instead of the one with the same key if there is one. -/
def insertEntry (key : Text) (value : α) : List (Text × α) → List (Text × α)
  | [] => [(key, value)]
  | (k, v) :: rest =>
    if key < k then (key, value) :: (k, v) :: rest
    else if key = k then (key, value) :: rest
    else (k, v) :: insertEntry key value rest

/-- The keys behind an insertion are the new key and those from before. -/
theorem fst_mem_insertEntry {key : Text} {value : α} {entries : List (Text × α)}
    {entry : Text × α} (h : entry ∈ insertEntry key value entries) :
    entry.1 = key ∨ entry ∈ entries := by
  induction entries with
  | nil => simp [insertEntry] at h; simp [h]
  | cons first rest ih =>
    obtain ⟨k, v⟩ := first
    simp only [insertEntry] at h
    split at h
    · rcases List.mem_cons.1 h with rfl | h
      · exact .inl rfl
      · exact .inr h
    · split at h
      · rcases List.mem_cons.1 h with rfl | h
        · exact .inl rfl
        · exact .inr (List.mem_cons_of_mem _ h)
      · rcases List.mem_cons.1 h with rfl | h
        · exact .inr List.mem_cons_self
        · rcases ih h with h | h
          · exact .inl h
          · exact .inr (List.mem_cons_of_mem _ h)

/-- **Insertion keeps the keys in ascending order**, each of them once. -/
theorem insertEntry_ascending {key : Text} {value : α} {entries : List (Text × α)}
    (h : entries.Pairwise fun a b => a.1 < b.1) :
    (insertEntry key value entries).Pairwise fun a b => a.1 < b.1 := by
  induction entries with
  | nil => simp [insertEntry]
  | cons first rest ih =>
    obtain ⟨k, v⟩ := first
    obtain ⟨hfirst, hrest⟩ := List.pairwise_cons.1 h
    simp only [insertEntry]
    split
    · next hlt =>
      refine List.pairwise_cons.2 ⟨fun entry hmem => ?_, h⟩
      rcases List.mem_cons.1 hmem with rfl | hmem
      · exact hlt
      · exact List.lt_trans hlt (hfirst entry hmem)
    · next hlt =>
      split
      · next heq =>
        subst heq
        exact List.pairwise_cons.2 ⟨hfirst, hrest⟩
      · next hne =>
        refine List.pairwise_cons.2 ⟨fun entry hmem => ?_, ih hrest⟩
        rcases fst_mem_insertEntry hmem with hkey | hmem
        · rcases Std.lt_trichotomy key k with hk | hk | hk
          · exact absurd hk hlt
          · exact absurd hk hne
          · exact hkey ▸ hk
        · exact hfirst entry hmem

/-- The table in which the key has the value and every other key keeps its own. -/
def insert (table : Table α) (key : Text) (value : α) : Table α :=
  ⟨insertEntry key value table.entries, insertEntry_ascending table.ascending⟩

/-- The table of a list of entries; of entries with the same key the last one counts. -/
def ofList (entries : List (Text × α)) : Table α :=
  entries.foldl (fun table entry => table.insert entry.1 entry.2) empty

/-- The table with every value replaced by its image. -/
def map {β : Type} (f : α → β) (table : Table α) : Table β :=
  ⟨table.entries.map fun entry => (entry.1, f entry.2), by
    simpa [List.pairwise_map] using table.ascending⟩

/-- **A table holds what is found in it**: an entry is in it exactly when its key leads to its
value. -/
theorem mem_entries_iff_get? (table : Table α) (key : Text) (value : α) :
    (key, value) ∈ table.entries ↔ table.get? key = some value := by
  obtain ⟨entries, ascending⟩ := table
  simp only [get?]
  induction entries with
  | nil => simp
  | cons first rest ih =>
    obtain ⟨k, v⟩ := first
    obtain ⟨hfirst, hrest⟩ := List.pairwise_cons.1 ascending
    rw [List.lookup_cons]
    by_cases hk : key = k
    · subst hk
      have absent : (key, value) ∉ rest := fun hmem =>
        absurd (hfirst _ hmem) (List.lt_irrefl key)
      simp [absent, eq_comm]
    · have hbeq : (key == k) = false := by simpa using hk
      simp [hbeq, hk, ih hrest]

end Table

end TypedStyle
