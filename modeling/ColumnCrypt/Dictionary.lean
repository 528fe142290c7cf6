/-!
Dictionaries keyed by text, one entry per key in ascending key order (the order of the keys'
UTF-8 bytes). Inserting a present key replaces its value in place.
-/

namespace ColumnCrypt

/-- A dictionary from texts to values, in ascending key order with one entry per key. -/
structure Dictionary (α : Type) where
  entries : List (String × α)
  ascending : (entries.map (·.1)).Pairwise (· < ·)
deriving Repr, DecidableEq

namespace Dictionary

variable {α : Type}

def empty : Dictionary α := ⟨[], List.Pairwise.nil⟩

instance : Inhabited (Dictionary α) := ⟨empty⟩

/-- Inserts an entry into an ascending list of entries, replacing the value of an equal key. -/
def insertEntry (key : String) (value : α) : List (String × α) → List (String × α)
  | [] => [(key, value)]
  | (other, old) :: rest =>
    if key < other then (key, value) :: (other, old) :: rest
    else if key = other then (key, value) :: rest
    else (other, old) :: insertEntry key value rest

theorem mem_keys_insertEntry {key other : String} {value : α} {entries : List (String × α)}
    (member : other ∈ (insertEntry key value entries).map (·.1)) :
    other = key ∨ other ∈ entries.map (·.1) := by
  induction entries with
  | nil => simpa [insertEntry] using member
  | cons entry rest ih =>
    obtain ⟨name, old⟩ := entry
    simp only [insertEntry] at member
    split at member
    · simpa using member
    · split at member
      · rename_i same
        subst same
        simp only [List.map_cons, List.mem_cons] at member ⊢
        rcases member with here | later
        · exact Or.inl here
        · exact Or.inr (Or.inr later)
      · simp only [List.map_cons, List.mem_cons] at member ⊢
        rcases member with here | later
        · exact Or.inr (Or.inl here)
        · rcases ih later with inserted | old
          · exact Or.inl inserted
          · exact Or.inr (Or.inr old)

theorem ascending_insertEntry (key : String) (value : α) {entries : List (String × α)}
    (ascending : (entries.map (·.1)).Pairwise (· < ·)) :
    ((insertEntry key value entries).map (·.1)).Pairwise (· < ·) := by
  induction entries with
  | nil => simp [insertEntry]
  | cons entry rest ih =>
    obtain ⟨name, old⟩ := entry
    simp only [List.map_cons, List.pairwise_cons] at ascending
    obtain ⟨above, restAscending⟩ := ascending
    simp only [insertEntry]
    split
    · rename_i before
      simp only [List.map_cons, List.pairwise_cons, List.mem_cons]
      refine ⟨?_, above, restAscending⟩
      rintro other (rfl | later)
      · exact before
      · exact String.lt_trans before (above other later)
    · split
      · rename_i same
        subst same
        simp only [List.map_cons, List.pairwise_cons]
        exact ⟨above, restAscending⟩
      · rename_i notBefore different
        -- the key goes further down: it lies above `name`
        have after : name < key := Decidable.byContradiction fun notAfter =>
          different (String.le_antisymm notAfter notBefore)
        simp only [List.map_cons, List.pairwise_cons]
        refine ⟨?_, ih restAscending⟩
        intro other member
        rcases mem_keys_insertEntry member with rfl | kept
        · exact after
        · exact above other kept

def insert (dictionary : Dictionary α) (key : String) (value : α) : Dictionary α :=
  ⟨insertEntry key value dictionary.entries, ascending_insertEntry key value dictionary.ascending⟩

/-- The dictionary of a list of entries, a later entry of a key replacing an earlier one. -/
def ofList (entries : List (String × α)) : Dictionary α :=
  entries.foldl (fun dictionary entry => dictionary.insert entry.1 entry.2) empty

def find? (dictionary : Dictionary α) (key : String) : Option α :=
  (dictionary.entries.find? (·.1 = key)).map (·.2)

def contains (dictionary : Dictionary α) (key : String) : Bool :=
  dictionary.entries.any (·.1 = key)

def keys (dictionary : Dictionary α) : List String :=
  dictionary.entries.map (·.1)

def size (dictionary : Dictionary α) : Nat :=
  dictionary.entries.length

@[simp] theorem find?_insert_self (dictionary : Dictionary α) (key : String) (value : α) :
    (dictionary.insert key value).find? key = some value := by
  obtain ⟨entries, ascending⟩ := dictionary
  simp only [insert, find?]
  clear ascending
  induction entries with
  | nil => simp [insertEntry]
  | cons entry rest ih =>
    obtain ⟨other, old⟩ := entry
    simp only [insertEntry]
    split
    · simp
    · split
      · simp
      · rename_i same
        simp [Ne.symm same, ih]

theorem find?_insert_other (dictionary : Dictionary α) {key other : String} (value : α)
    (different : other ≠ key) :
    (dictionary.insert key value).find? other = dictionary.find? other := by
  obtain ⟨entries, ascending⟩ := dictionary
  simp only [insert, find?]
  clear ascending
  induction entries with
  | nil => simp [insertEntry, Ne.symm different]
  | cons entry rest ih =>
    obtain ⟨name, old⟩ := entry
    simp only [insertEntry]
    split
    · simp [Ne.symm different]
    · split
      · rename_i same
        subst same
        simp [Ne.symm different]
      · by_cases hit : name = other
        · simp [hit]
        · simp [hit, ih]

theorem contains_eq_isSome_find? (dictionary : Dictionary α) (key : String) :
    dictionary.contains key = (dictionary.find? key).isSome := by
  apply Bool.eq_iff_iff.mpr
  simp [contains, find?, List.any_eq_true, List.find?_isSome]

@[simp] theorem find?_empty (key : String) : (empty : Dictionary α).find? key = none := rfl

@[simp] theorem contains_empty (key : String) : (empty : Dictionary α).contains key = false := rfl

theorem contains_insert (dictionary : Dictionary α) (key other : String) (value : α) :
    (dictionary.insert key value).contains other = true ↔
      other = key ∨ dictionary.contains other = true := by
  rw [contains_eq_isSome_find?, contains_eq_isSome_find?]
  by_cases same : other = key
  · subst same
    simp
  · simp [find?_insert_other _ _ same, same]

end Dictionary

end ColumnCrypt
