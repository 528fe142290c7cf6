import Mathlib.Data.Finset.Card
import ColumnCrypt.Proofs.Build

/-!
Runs of puts on table names: the list and the index of folded spellings agree after every put
(`Indexed`), and a run keeps one name per folded spelling, in the order of first puts, each
spelled as its latest put (`put_run_records`).
-/

namespace ColumnCrypt

namespace TableNames

/-- The index points each folded spelling at the position of a name that folds to it, and every
name is indexed at its position. -/
structure Indexed (table : TableNames) : Prop where
  sound : ∀ key position, table.indexes.find? key = some position →
    ∃ name, table.names[position]? = some name ∧ Text.lowerAscii name = key
  complete : ∀ position name, table.names[position]? = some name →
    table.indexes.find? (Text.lowerAscii name) = some position

theorem indexed_empty : ({} : TableNames).Indexed where
  sound _ _ found := by simp at found
  complete _ _ listed := by simp at listed

variable {table : TableNames} {name : String}

theorem Indexed.position_eq (indexed : table.Indexed) {position other : Nat} {name' : String}
    (listed : table.names[position]? = some name) (listed' : table.names[other]? = some name')
    (same : Text.lowerAscii name = Text.lowerAscii name') : position = other := by
  have first := indexed.complete _ _ listed
  rw [same, indexed.complete _ _ listed'] at first
  exact (Option.some.inj first).symm

theorem Indexed.distinct (indexed : table.Indexed) : Text.DistinctFolded table.names := by
  unfold Text.DistinctFolded
  rw [List.pairwise_iff_getElem]
  intro i j hi hj before same
  have samePosition := indexed.position_eq (List.getElem?_eq_getElem hi)
    (List.getElem?_eq_getElem hj) same
  omega

theorem Indexed.contains_iff (indexed : table.Indexed) :
    table.contains name = true ↔
      ∃ other ∈ table.names, Text.lowerAscii other = Text.lowerAscii name := by
  rw [contains, Dictionary.contains_eq_isSome_find?, Option.isSome_iff_exists]
  constructor
  · rintro ⟨position, found⟩
    obtain ⟨other, listed, same⟩ := indexed.sound _ _ found
    exact ⟨other, List.mem_of_getElem? listed, same⟩
  · rintro ⟨other, member, same⟩
    obtain ⟨position, listed⟩ := List.mem_iff_getElem?.mp member
    exact ⟨position, same ▸ indexed.complete _ _ listed⟩

theorem Indexed.put_of_find?_eq_some (indexed : table.Indexed) {position : Nat}
    (found : table.indexes.find? (Text.lowerAscii name) = some position) :
    (table.put name).Indexed := by
  obtain ⟨old, atOld, sameOld⟩ := indexed.sound _ _ found
  have bound : position < table.names.length := (List.getElem?_eq_some_iff.mp atOld).1
  rw [TableNames.put_of_find?_eq_some found]
  constructor
  · intro key other located
    obtain ⟨kept, atKept, sameKept⟩ := indexed.sound _ _ located
    by_cases here : position = other
    · subst here
      rw [atOld, Option.some.injEq] at atKept
      subst atKept
      exact ⟨name, List.getElem?_set_self bound, sameOld.symm.trans sameKept⟩
    · exact ⟨kept, (List.getElem?_set_ne here).trans atKept, sameKept⟩
  · intro other named listed
    by_cases here : position = other
    · subst here
      rw [List.getElem?_set_self bound, Option.some.injEq] at listed
      subst listed
      exact found
    · rw [List.getElem?_set_ne here] at listed
      exact indexed.complete _ _ listed

theorem Indexed.put_of_find?_eq_none (indexed : table.Indexed)
    (unindexed : table.indexes.find? (Text.lowerAscii name) = none) :
    (table.put name).Indexed := by
  rw [TableNames.put_of_find?_eq_none unindexed]
  constructor
  · intro key other located
    by_cases same : key = Text.lowerAscii name
    · subst same
      rw [Dictionary.find?_insert_self, Option.some.injEq] at located
      subst located
      exact ⟨name, List.getElem?_concat_length, rfl⟩
    · rw [Dictionary.find?_insert_other _ _ same] at located
      obtain ⟨kept, atKept, sameKept⟩ := indexed.sound _ _ located
      have bound : other < table.names.length := (List.getElem?_eq_some_iff.mp atKept).1
      exact ⟨kept, (List.getElem?_append_left bound).trans atKept, sameKept⟩
  · intro other named listed
    rcases Nat.lt_or_ge other table.names.length with before | after
    · -- a name listed before keeps its position, under a spelling other than the new one
      rw [List.getElem?_append_left before] at listed
      have kept := indexed.complete _ _ listed
      have different : Text.lowerAscii named ≠ Text.lowerAscii name := by
        intro same
        rw [same, unindexed] at kept
        cases kept
      rw [Dictionary.find?_insert_other _ _ different, kept]
    · rw [List.getElem?_append_right after] at listed
      have last : other = table.names.length := by
        have := (List.getElem?_eq_some_iff.mp listed).1
        simp at this
        omega
      subst last
      simp only [Nat.sub_self, List.getElem?_cons_zero, Option.some.injEq] at listed
      subst listed
      exact Dictionary.find?_insert_self _ _ _

theorem Indexed.put (indexed : table.Indexed) (name : String) : (table.put name).Indexed := by
  cases found : table.indexes.find? (Text.lowerAscii name) with
  | some position => exact indexed.put_of_find?_eq_some found
  | none => exact indexed.put_of_find?_eq_none found

theorem indexed_foldl_put {α : Type} (spelling : α → String) (items : List α)
    {start : TableNames} (indexed : start.Indexed) :
    (items.foldl (fun names item => names.put (spelling item)) start).Indexed := by
  induction items generalizing start with
  | nil => exact indexed
  | cons item rest ih => exact ih (indexed.put _)

section Run

variable (puts : List String)

theorem indexed_run : (puts.foldl put {}).Indexed :=
  indexed_foldl_put id puts indexed_empty

theorem contains_run_iff (name : String) :
    (puts.foldl put {}).contains name = true ↔
      ∃ put ∈ puts, Text.lowerAscii name = Text.lowerAscii put := by
  induction puts using List.reverseRecOn with
  | nil => simp [contains]
  | append_singleton puts last ih =>
    rw [List.foldl_append, List.foldl_cons, List.foldl_nil, contains_put, ih]
    simp only [List.mem_append, List.mem_singleton]
    constructor
    · rintro (same | ⟨put, member, same⟩)
      · exact ⟨last, Or.inr rfl, same.symm⟩
      · exact ⟨put, Or.inl member, same⟩
    · rintro ⟨put, member | rfl, same⟩
      · exact Or.inr ⟨put, member, same⟩
      · exact Or.inl same.symm

theorem keys_run :
    (puts.foldl put {}).names.map Text.lowerAscii = (puts.map Text.lowerAscii).eraseDups := by
  induction puts using List.reverseRecOn with
  | nil => rfl
  | append_singleton puts last ih =>
    rw [List.foldl_append, List.foldl_cons, List.foldl_nil, List.map_append, List.map_singleton]
    have indexed := indexed_run puts
    cases found : (puts.foldl put {}).indexes.find? (Text.lowerAscii last) with
    | some position =>
      obtain ⟨old, atOld, sameOld⟩ := indexed.sound _ _ found
      have seen : ∃ put ∈ puts, Text.lowerAscii put = Text.lowerAscii last := by
        obtain ⟨put, member, same⟩ :=
          (contains_run_iff puts last).mp (contains_of_find?_eq_some found)
        exact ⟨put, member, same.symm⟩
      have bound : position < (puts.foldl put {}).names.length :=
        (List.getElem?_eq_some_iff.mp atOld).1
      have mapped : position < ((puts.foldl put {}).names.map Text.lowerAscii).length := by
        simpa using bound
      have keyAt : ((puts.foldl put {}).names.map Text.lowerAscii)[position] =
          Text.lowerAscii last := by
        rw [List.getElem_map, ← sameOld]
        exact congrArg _ (Option.some.inj ((List.getElem?_eq_getElem bound).symm.trans atOld))
      have unchanged : ((puts.foldl put {}).names.map Text.lowerAscii).set position
          (Text.lowerAscii last) = (puts.foldl put {}).names.map Text.lowerAscii := by
        rw [← keyAt, List.set_getElem_self]
      rw [TableNames.put_of_find?_eq_some found, List.map_set, unchanged, ih,
        List.eraseDups_append, List.removeAll, List.filter_singleton]
      simp [seen]
    | none =>
      have unseen : ¬∃ put ∈ puts, Text.lowerAscii put = Text.lowerAscii last := by
        rintro ⟨put, member, same⟩
        have present := (contains_run_iff puts last).mpr ⟨put, member, same.symm⟩
        rw [contains_eq_false_iff.mpr found] at present
        cases present
      rw [TableNames.put_of_find?_eq_none found, List.map_append, List.map_singleton, ih,
        List.eraseDups_append, List.removeAll, List.filter_singleton]
      simp [unseen, List.eraseDups_cons]

theorem latest_run :
    ∀ name ∈ (puts.foldl put {}).names, ∃ before after, puts = before ++ name :: after ∧
      ∀ later ∈ after, Text.lowerAscii later ≠ Text.lowerAscii name := by
  induction puts using List.reverseRecOn with
  | nil => simp
  | append_singleton puts last ih =>
    rw [List.foldl_append, List.foldl_cons, List.foldl_nil]
    have indexed := indexed_run puts
    have extend : ∀ name ∈ (puts.foldl put {}).names,
        Text.lowerAscii last ≠ Text.lowerAscii name →
        ∃ before after, puts ++ [last] = before ++ name :: after ∧
          ∀ later ∈ after, Text.lowerAscii later ≠ Text.lowerAscii name := by
      intro name member different
      obtain ⟨before, after, split, latest⟩ := ih name member
      refine ⟨before, after ++ [last], by simp [split], ?_⟩
      intro later laterMember
      rcases List.mem_append.mp laterMember with earlier | newest
      · exact latest later earlier
      · rw [List.mem_singleton.mp newest]
        exact different
    intro name member
    cases found : (puts.foldl put {}).indexes.find? (Text.lowerAscii last) with
    | some position =>
      rw [TableNames.put_of_find?_eq_some found] at member
      obtain ⟨other, listed⟩ := List.mem_iff_getElem?.mp member
      by_cases here : position = other
      · subst here
        obtain ⟨old, atOld, -⟩ := indexed.sound _ _ found
        have bound := (List.getElem?_eq_some_iff.mp atOld).1
        rw [List.getElem?_set_self bound, Option.some.injEq] at listed
        subst listed
        exact ⟨puts, [], rfl, by simp⟩
      · rw [List.getElem?_set_ne here] at listed
        apply extend name (List.mem_of_getElem? listed)
        intro same
        obtain ⟨old, atOld, sameOld⟩ := indexed.sound _ _ found
        exact here (indexed.position_eq atOld listed (sameOld.trans same))
    | none =>
      rw [TableNames.put_of_find?_eq_none found] at member
      rcases List.mem_append.mp member with earlier | newest
      · apply extend name earlier
        intro same
        have present : (puts.foldl put {}).contains last = true :=
          indexed.contains_iff.mpr ⟨name, earlier, same.symm⟩
        rw [contains_eq_false_iff.mpr found] at present
        cases present
      · rw [List.mem_singleton.mp newest]
        exact ⟨puts, [], rfl, by simp⟩

theorem size_run :
    (puts.foldl put {}).size = (puts.map Text.lowerAscii).toFinset.card := by
  have indexed := indexed_run puts
  have distinct : ((puts.foldl put {}).names.map Text.lowerAscii).Nodup := by
    have pairwise := indexed.distinct
    unfold Text.DistinctFolded at pairwise
    exact List.pairwise_map.mpr pairwise
  rw [size, ← List.length_map Text.lowerAscii, ← List.toFinset_card_of_nodup distinct]
  congr 1
  ext key
  simp only [List.mem_toFinset, List.mem_map]
  constructor
  · rintro ⟨name, member, rfl⟩
    obtain ⟨put, listed, same⟩ := (contains_run_iff puts name).mp
      (indexed.contains_iff.mpr ⟨name, member, rfl⟩)
    exact ⟨put, listed, same.symm⟩
  · rintro ⟨put, listed, rfl⟩
    obtain ⟨name, member, same⟩ := indexed.contains_iff.mp
      ((contains_run_iff puts put).mpr ⟨put, listed, rfl⟩)
    exact ⟨name, member, same⟩

end Run

/-- What table names hold after a run of puts. -/
structure PutRecords (puts : List String) (table : TableNames) : Prop where
  indexed : table.Indexed
  distinct : Text.DistinctFolded table.names
  size_eq : table.size = (puts.map Text.lowerAscii).toFinset.card
  contains_iff : ∀ name, table.contains name = true ↔
    ∃ put ∈ puts, Text.lowerAscii name = Text.lowerAscii put
  keys_eq : table.names.map Text.lowerAscii = (puts.map Text.lowerAscii).eraseDups
  latest : ∀ name ∈ table.names, ∃ before after, puts = before ++ name :: after ∧
    ∀ later ∈ after, Text.lowerAscii later ≠ Text.lowerAscii name

/-- After any run of puts on no names, the index points every folded spelling at the position of
the one name that folds to it; the list holds one name per folded spelling put, in the order of
each spelling's first put, each the spelling of its latest put; the count is the number of
distinct folded spellings put; and a name is present when it folds like a name put. -/
theorem put_run_records (puts : List String) : PutRecords puts (puts.foldl put {}) where
  indexed := indexed_run puts
  distinct := (indexed_run puts).distinct
  size_eq := size_run puts
  contains_iff := contains_run_iff puts
  keys_eq := keys_run puts
  latest := latest_run puts

end TableNames

end ColumnCrypt
