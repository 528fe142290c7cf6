import ColumnCrypt.Proofs.TableChecks

/-!
The index of cipher storage names never refuses a column.

While a table is built, every indexed cipher storage name is a storage name claimed before
(`Progress.Indexed`), and a column reaches the index only when its claims passed, so the fault of
a duplicate cipher column is never reported (`cipher_index_always_inserts`); a built table finds
every column at its own position by either lookup (`Table.ExactIndexes`).
-/

namespace ColumnCrypt

theorem find?_key_getElem {α β : Type} [DecidableEq β] (key : α → β) {items : List α}
    (distinct : (items.map key).Nodup) (position : Nat) (bound : position < items.length) :
    items.find? (fun item => key item = key items[position]) = some items[position] := by
  rw [List.find?_eq_some_iff_getElem]
  refine ⟨by simp, position, bound, rfl, fun earlier before => ?_⟩
  have earlierBound : earlier < (items.map key).length := by simp; omega
  have positionBound : position < (items.map key).length := by simpa using bound
  have apart : (items.map key)[earlier] ≠ (items.map key)[position] := fun same =>
    Nat.ne_of_lt before ((List.Nodup.getElem_inj_iff distinct).mp same)
  simpa using apart

namespace Table

/-- The indexes of a table being built agree with its columns: the indexed cipher storage names
are those of the columns built, in order and folded to small letters, each of them claimed as a
storage name, and no two columns share a logic name or an indexed name. -/
structure Progress.Indexed (progress : Progress) : Prop where
  cipherKeys : progress.cipherKeys =
    progress.columns.map fun column => Text.lowerAscii column.cipher.storage
  claimed : ∀ key ∈ progress.cipherKeys, key ∈ progress.claimed
  names : (progress.columns.map (·.name)).Nodup
  keys : progress.cipherKeys.Nodup

/-- The lookups of a table index its columns exactly: no two columns share a logic name or a
folded cipher storage name, and each column is found at its own position by either. -/
structure ExactIndexes (table : Table) : Prop where
  names : table.logicColumns.Nodup
  keys : (table.columns.map fun column => Text.lowerAscii column.cipher.storage).Nodup
  column? (position : Nat) (bound : position < table.columns.length) :
    table.column? table.columns[position].name = some table.columns[position]
  columnOfCipher? (position : Nat) (bound : position < table.columns.length) :
    table.columnOfCipher? table.columns[position].cipher.storage = some table.columns[position]

variable {registry : CapabilityRegistry} {table : String}

theorem bindItem_eq_error {α : Type} {role : Role} {find : String → Option (Handle α)}
    {column suffix : String} {item : Option ItemConfig} {fault : Fault}
    (refused : bindItem role find table column suffix item = .error fault) :
    ∃ encryptor, fault = .roleMismatch role encryptor table column := by
  cases item with
  | none => cases refused
  | some item =>
    cases filed : find item.encryptor with
    | none =>
      simp only [bindItem, filed, Except.error.injEq] at refused
      exact ⟨_, refused.symm⟩
    | some handle => simp [bindItem, filed] at refused

theorem claim_eq_error {column : String} {claimed storages : List String} {fault : Fault}
    (refused : claim table column claimed storages = .error fault) :
    ∃ storage, fault = .duplicateStorageColumn table storage column := by
  induction storages generalizing claimed with
  | nil => cases refused
  | cons storage rest ih =>
    rw [claim] at refused
    split at refused
    · exact ⟨storage, (Except.error.inj refused).symm⟩
    · exact ih refused

theorem claim_eq_ok {column : String} {claimed storages result : List String}
    (taken : claim table column claimed storages = .ok result) :
    result = claimed ++ storages.map Text.lowerAscii := by
  induction storages generalizing claimed with
  | nil => simpa using (Except.ok.inj taken).symm
  | cons storage rest ih =>
    rw [claim] at taken
    split at taken
    · cases taken
    · simpa using ih taken

theorem claim_cons_eq_ok {column storage : String} {claimed rest result : List String}
    (taken : claim table column claimed (storage :: rest) = .ok result) :
    Text.lowerAscii storage ∉ claimed ∧
      result = claimed ++ (storage :: rest).map Text.lowerAscii := by
  refine ⟨fun member => ?_, claim_eq_ok taken⟩
  rw [claim, if_pos (List.contains_iff_mem.mpr member)] at taken
  cases taken

/-- Adding a column either fails before the cipher index is asked, with another fault than a
duplicate cipher column, or claims the column's storage names, its cipher storage name first,
and leaves the column to the index. -/
theorem addColumn_cases (progress : Progress) (config : ColumnConfig) :
    (∃ fault, addColumn table registry progress config = .error fault ∧
      ∀ table' storage, fault ≠ .duplicateCipherColumn table' storage) ∨
    ∃ column rest claimed, column.name = config.name ∧
      config.name ∉ progress.columns.map (·.name) ∧
      claim table config.name progress.claimed (column.cipher.storage :: rest) = .ok claimed ∧
      addColumn table registry progress config =
        if progress.cipherKeys.contains (Text.lowerAscii column.cipher.storage) then
          .error (.duplicateCipherColumn table column.cipher.storage)
        else .ok { columns := progress.columns ++ [column], claimed,
                   cipherKeys := progress.cipherKeys ++ [Text.lowerAscii column.cipher.storage] } := by
  by_cases empty : config.name = ""
  · exact .inl ⟨.emptyColumnName table, by
      simp [addColumn, empty, throw, throwThe, MonadExceptOf.throw, bind, Except.bind], by simp⟩
  by_cases seen : progress.columns.any (·.name = config.name) = true
  · exact .inl ⟨.duplicateColumn table config.name, by
      simp [addColumn, empty, seen, throw, throwThe, MonadExceptOf.throw, bind, Except.bind],
      by simp⟩
  have fresh : config.name ∉ progress.columns.map (·.name) := by simpa using seen
  cases cipherFound : registry.findCipher? config.cipher.encryptor with
  | none =>
    exact .inl ⟨.roleMismatch .cipher config.cipher.encryptor table config.name, by
      simp [addColumn, empty, seen, cipherFound, throw, throwThe, MonadExceptOf.throw], by simp⟩
  | some cipher =>
    cases assistedBound : bindItem .assistedQuery registry.findAssistedQuery? table config.name
        "_assisted" config.assistedQuery with
    | error fault =>
      refine .inl ⟨fault, by
        simp [addColumn, empty, seen, cipherFound, assistedBound, bind, Except.bind], ?_⟩
      obtain ⟨_, rfl⟩ := bindItem_eq_error assistedBound
      simp
    | ok assisted =>
      cases likeBound : bindItem .likeQuery registry.findLikeQuery? table config.name "_like"
          config.likeQuery with
      | error fault =>
        refine .inl ⟨fault, by
          simp [addColumn, empty, seen, cipherFound, assistedBound, likeBound, bind, Except.bind],
          ?_⟩
        obtain ⟨_, rfl⟩ := bindItem_eq_error likeBound
        simp
      | ok like =>
        cases claimed : claim table config.name progress.claimed
            (storageName config.cipher.name config.name "" ::
              ((assisted.map (·.storage)).toList ++ (like.map (·.storage)).toList)) with
        | error fault =>
          refine .inl ⟨fault, by
            simp [addColumn, empty, seen, cipherFound, assistedBound, likeBound, claimed, bind,
              Except.bind], ?_⟩
          obtain ⟨_, rfl⟩ := claim_eq_error claimed
          simp
        | ok names =>
          refine .inr ⟨⟨config.name, ⟨storageName config.cipher.name config.name "",
            config.cipher.encryptor, cipher⟩, assisted, like⟩, _, names, rfl, fresh, claimed, ?_⟩
          simp [addColumn, empty, seen, cipherFound, assistedBound, likeBound, claimed, bind,
            Except.bind, throw, throwThe, MonadExceptOf.throw, pure, Except.pure]

namespace Progress

variable {progress next : Progress} {config : ColumnConfig}

theorem indexed_empty : ({} : Progress).Indexed where
  cipherKeys := rfl
  claimed := by simp
  names := List.nodup_nil
  keys := List.nodup_nil

theorem Indexed.unindexed (indexed : progress.Indexed) {storage : String}
    {rest claimed : List String}
    (taken : claim table config.name progress.claimed (storage :: rest) = .ok claimed) :
    Text.lowerAscii storage ∉ progress.cipherKeys := fun indexedBefore =>
  (claim_cons_eq_ok taken).1 (indexed.claimed _ indexedBefore)

theorem Indexed.addColumn_ne_duplicateCipherColumn (indexed : progress.Indexed)
    (config : ColumnConfig) (table' storage : String) :
    addColumn table registry progress config ≠ .error (.duplicateCipherColumn table' storage) := by
  rcases addColumn_cases progress config with
    ⟨fault, refused, other⟩ | ⟨column, rest, claimed, -, -, taken, added⟩
  · rw [refused]
    exact fun same => other table' storage (Except.error.inj same)
  · rw [added, if_neg (by simpa using indexed.unindexed taken)]
    exact fun same => nomatch same

theorem Indexed.addColumn (indexed : progress.Indexed)
    (added : addColumn table registry progress config = .ok next) : next.Indexed := by
  rcases addColumn_cases progress config with
    ⟨fault, refused, -⟩ | ⟨column, rest, claimed, named, fresh, taken, step⟩
  · rw [refused] at added
    cases added
  have unindexed := indexed.unindexed taken
  rw [step, if_neg (by simpa using unindexed), Except.ok.injEq] at added
  subst added
  obtain ⟨-, grown⟩ := claim_cons_eq_ok taken
  refine ⟨by simp [indexed.cipherKeys], ?_, ?_, ?_⟩
  · -- the old keys stay claimed, and the new key is claimed by the column itself
    intro key member
    rw [grown]
    rcases List.mem_append.mp member with old | new
    · exact List.mem_append_left _ (indexed.claimed key old)
    · simp only [List.mem_singleton] at new
      simp [new]
  · simpa [named] using List.Nodup.append indexed.names (List.nodup_singleton _)
      (by simpa [named] using fresh)
  · exact List.Nodup.append indexed.keys (List.nodup_singleton _) (by simpa using unindexed)

variable {configs : List ColumnConfig} {result : Progress}

theorem Indexed.foldlM_addColumn (indexed : progress.Indexed)
    (ran : configs.foldlM (Table.addColumn table registry) progress = .ok result) :
    result.Indexed := by
  induction configs generalizing progress with
  | nil =>
    rw [List.foldlM_nil, except_pure_eq_ok] at ran
    exact ran ▸ indexed
  | cons config rest ih =>
    rw [List.foldlM_cons, except_bind_eq_ok] at ran
    obtain ⟨next, added, ranRest⟩ := ran
    exact ih (indexed.addColumn added) ranRest

theorem Indexed.foldlM_addColumn_ne_duplicateCipherColumn (indexed : progress.Indexed)
    (table' storage : String) :
    configs.foldlM (Table.addColumn table registry) progress ≠
      .error (.duplicateCipherColumn table' storage) := by
  induction configs generalizing progress with
  | nil =>
    rw [List.foldlM_nil]
    exact except_pure_ne_error
  | cons config rest ih =>
    rw [List.foldlM_cons]
    intro refused
    rcases except_bind_eq_error.mp refused with refusedHere | ⟨next, added, refusedLater⟩
    · exact indexed.addColumn_ne_duplicateCipherColumn config table' storage refusedHere
    · exact ih (indexed.addColumn added) refusedLater

theorem Indexed.distinctKeys (indexed : progress.Indexed) :
    (progress.columns.map fun column => Text.lowerAscii column.cipher.storage).Nodup := by
  rw [← indexed.cipherKeys]
  exact indexed.keys

theorem Indexed.exactIndexes (indexed : progress.Indexed) (name : String) :
    ExactIndexes ⟨name, progress.columns⟩ where
  names := indexed.names
  keys := indexed.distinctKeys
  column? position bound := by
    unfold Table.column?
    exact find?_key_getElem (·.name) indexed.names position bound
  columnOfCipher? position bound := by
    unfold columnOfCipher?
    exact find?_key_getElem (fun column : Column => Text.lowerAscii column.cipher.storage)
      indexed.distinctKeys position bound

end Progress

theorem build_ne_duplicateCipherColumn (config : TableConfig) (table' storage : String) :
    Table.build config registry ≠ .error (.duplicateCipherColumn table' storage) := by
  rcases em (config.name = "") with empty | named
  · rw [build_of_empty_name empty]
    exact fun same => nomatch same
  · rw [build_of_named named]
    intro refused
    rcases except_bind_eq_error.mp refused with failed | ⟨_, -, wrapped⟩
    · exact Progress.indexed_empty.foldlM_addColumn_ne_duplicateCipherColumn table' storage failed
    · exact except_pure_ne_error wrapped

theorem exactIndexes_of_build_eq_ok {config : TableConfig} {built : Table}
    (succeeded : Table.build config registry = .ok built) : built.ExactIndexes := by
  rcases em (config.name = "") with empty | named
  · rw [build_of_empty_name empty] at succeeded
    cases succeeded
  · rw [build_of_named named, except_bind_eq_ok] at succeeded
    obtain ⟨progress, ran, made⟩ := succeeded
    rw [← except_pure_eq_ok.mp made]
    exact (Progress.indexed_empty.foldlM_addColumn ran).exactIndexes config.name

/-- Building a table never reports a duplicate cipher column. Throughout the loop over the
columns, the folded cipher storage names indexed are those of the columns built, each claimed as
a storage name, and no two columns share a logic name or an indexed name; so the next column,
whatever it is, is never refused by the index. A built table finds each column at its own
position by logic name and by cipher storage name. -/
theorem cipher_index_always_inserts (config : TableConfig) (registry : CapabilityRegistry) :
    (∀ table storage, Table.build config registry ≠ .error (.duplicateCipherColumn table storage)) ∧
    (∀ (done : List ColumnConfig) (progress : Progress),
      done.foldlM (addColumn config.name registry) {} = .ok progress →
        progress.Indexed ∧ ∀ (next : ColumnConfig) (table storage : String),
          addColumn config.name registry progress next ≠
            .error (.duplicateCipherColumn table storage)) ∧
    ∀ table, Table.build config registry = .ok table → table.ExactIndexes := by
  refine ⟨build_ne_duplicateCipherColumn config, fun done progress ran => ?_,
    fun _ succeeded => exactIndexes_of_build_eq_ok succeeded⟩
  have indexed := Progress.indexed_empty.foldlM_addColumn ran
  exact ⟨indexed, indexed.addColumn_ne_duplicateCipherColumn⟩

end Table

end ColumnCrypt
