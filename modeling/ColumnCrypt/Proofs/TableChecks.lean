import ColumnCrypt.Proofs.Table

/-!
When a table builds, which fault it reports, and what its lookups find.

A table builds exactly when it has a name and its columns pass (`ColumnsPass`); one that fails
reports the first failing check of its first failing column, in a fixed order of checks
(`ColumnFault`); a built table finds its columns by exact logic name and by any spelling of their
cipher storage names (`build_checks_and_lookups`).
-/

namespace ColumnCrypt

namespace ColumnConfig

def cipherStorage (config : ColumnConfig) : String :=
  Table.storageName config.cipher.name config.name ""

def storageNames (config : ColumnConfig) : List String :=
  config.cipherStorage ::
    ((config.assistedQuery.map fun item => Table.storageName item.name config.name "_assisted").toList ++
      (config.likeQuery.map fun item => Table.storageName item.name config.name "_like").toList)

def RolesFiled (registry : CapabilityRegistry) (config : ColumnConfig) : Prop :=
  (registry.findCipher? config.cipher.encryptor).isSome ∧
    (∀ item ∈ config.assistedQuery, (registry.findAssistedQuery? item.encryptor).isSome) ∧
    ∀ item ∈ config.likeQuery, (registry.findLikeQuery? item.encryptor).isSome

end ColumnConfig

namespace Table

def claimsOf (columns : List ColumnConfig) : List String :=
  (columns.flatMap ColumnConfig.storageNames).map Text.lowerAscii

def ColumnPasses (registry : CapabilityRegistry) (earlier : List ColumnConfig)
    (config : ColumnConfig) : Prop :=
  config.name ≠ "" ∧ config.name ∉ earlier.map (·.name) ∧ config.RolesFiled registry ∧
    (claimsOf earlier ++ config.storageNames.map Text.lowerAscii).Nodup

def ColumnsPass (registry : CapabilityRegistry) (columns : List ColumnConfig) : Prop :=
  (∀ column ∈ columns, column.name ≠ "") ∧ (columns.map (·.name)).Nodup ∧
    (∀ column ∈ columns, column.RolesFiled registry) ∧ (claimsOf columns).Nodup

/-- The fault of the first check that a column fails after the columns `earlier` passed theirs. -/
inductive ColumnFault (registry : CapabilityRegistry) (table : String)
    (earlier : List ColumnConfig) (config : ColumnConfig) : Fault → Prop
  | emptyName (empty : config.name = "") :
      ColumnFault registry table earlier config (.emptyColumnName table)
  | duplicateName (named : config.name ≠ "") (seen : config.name ∈ earlier.map (·.name)) :
      ColumnFault registry table earlier config (.duplicateColumn table config.name)
  | cipher (named : config.name ≠ "") (fresh : config.name ∉ earlier.map (·.name))
      (unfiled : registry.findCipher? config.cipher.encryptor = none) :
      ColumnFault registry table earlier config
        (.roleMismatch .cipher config.cipher.encryptor table config.name)
  | assistedQuery {item : ItemConfig} (named : config.name ≠ "")
      (fresh : config.name ∉ earlier.map (·.name))
      (cipherFiled : (registry.findCipher? config.cipher.encryptor).isSome)
      (configured : config.assistedQuery = some item)
      (unfiled : registry.findAssistedQuery? item.encryptor = none) :
      ColumnFault registry table earlier config
        (.roleMismatch .assistedQuery item.encryptor table config.name)
  | likeQuery {item : ItemConfig} (named : config.name ≠ "")
      (fresh : config.name ∉ earlier.map (·.name))
      (cipherFiled : (registry.findCipher? config.cipher.encryptor).isSome)
      (assistedFiled :
        ∀ assisted ∈ config.assistedQuery, (registry.findAssistedQuery? assisted.encryptor).isSome)
      (configured : config.likeQuery = some item)
      (unfiled : registry.findLikeQuery? item.encryptor = none) :
      ColumnFault registry table earlier config
        (.roleMismatch .likeQuery item.encryptor table config.name)
  | storage {before after : List String} {storage : String} (named : config.name ≠ "")
      (fresh : config.name ∉ earlier.map (·.name)) (filed : config.RolesFiled registry)
      (split : config.storageNames = before ++ storage :: after)
      (unclashed : (claimsOf earlier ++ before.map Text.lowerAscii).Nodup)
      (clash : Text.lowerAscii storage ∈ claimsOf earlier ++ before.map Text.lowerAscii) :
      ColumnFault registry table earlier config (.duplicateStorageColumn table storage config.name)

/-- The fault that building a table reports: the table has no name, or the first column, in
declaration order, that fails a check after the columns before it passed theirs. -/
inductive TableFault (registry : CapabilityRegistry) (config : TableConfig) : Fault → Prop
  | emptyName (empty : config.name = "") : TableFault registry config .emptyTableName
  | column {before after : List ColumnConfig} {column : ColumnConfig} {fault : Fault}
      (named : config.name ≠ "") (split : config.columns = before ++ column :: after)
      (passed : ColumnsPass registry before) (failed : ColumnFault registry config.name before column fault) :
      TableFault registry config fault

/-- A column built as configured: it follows its configuration role by role, and keeps each
role in the role's storage column. -/
structure Builds (registry : CapabilityRegistry) (config : ColumnConfig) (column : Column) : Prop where
  follows : Follows registry config column
  cipherStorage : column.cipher.storage = config.cipherStorage
  assistedStorage : column.assistedQuery.map (·.storage) =
    config.assistedQuery.map fun item => storageName item.name config.name "_assisted"
  likeStorage : column.likeQuery.map (·.storage) =
    config.likeQuery.map fun item => storageName item.name config.name "_like"

/-- What building has gathered after the columns `done`: a column built from each in order, their
storage names claimed, and their cipher storage names indexed. -/
structure Reached (registry : CapabilityRegistry) (done : List ColumnConfig) (progress : Progress) :
    Prop where
  columns : List.Forall₂ (Builds registry) done progress.columns
  claimed : progress.claimed = claimsOf done
  cipherKeys : progress.cipherKeys = done.map fun config => Text.lowerAscii config.cipherStorage

structure Finds (registry : CapabilityRegistry) (config : TableConfig) (table : Table) : Prop where
  name : table.name = config.name
  logicColumns : table.logicColumns = config.columns.map (·.name)
  column? (logic : String) :
    Option.Rel (Builds registry) (config.columns.find? (·.name = logic)) (table.column? logic)
  isEncryptColumn (logic : String) :
    table.isEncryptColumn logic = true ↔ logic ∈ config.columns.map (·.name)
  isCipherColumn (storage : String) :
    table.isCipherColumn storage = true ↔
      ∃ column ∈ config.columns, Text.lowerAscii column.cipherStorage = Text.lowerAscii storage
  logicColumnOfCipher (storage : String) (column : ColumnConfig) (configured : column ∈ config.columns)
      (same : Text.lowerAscii column.cipherStorage = Text.lowerAscii storage) :
    table.logicColumnOfCipher storage = .ok column.name
  cipherColumnNotFound (storage : String)
      (unmatched : ∀ column ∈ config.columns,
        Text.lowerAscii column.cipherStorage ≠ Text.lowerAscii storage) :
    table.logicColumnOfCipher storage = .error (.cipherColumnNotFound config.name storage)

/-! ### Claims of storage names -/

theorem claimsOf_append (columns more : List ColumnConfig) :
    claimsOf (columns ++ more) = claimsOf columns ++ claimsOf more := by
  simp [claimsOf]

theorem claimsOf_singleton (config : ColumnConfig) :
    claimsOf [config] = config.storageNames.map Text.lowerAscii := by
  simp [claimsOf]

theorem contains_eq_false_of_nodup {claimed rest : List String} {storage : String}
    (distinct : (claimed ++ (storage :: rest).map Text.lowerAscii).Nodup) :
    claimed.contains (Text.lowerAscii storage) = false := by
  have unclaimed := (List.nodup_append.mp distinct).2.2 (Text.lowerAscii storage)
  simpa using fun member => unclaimed member _ (by simp) rfl

theorem claim_of_distinct {table column : String} {claimed storages : List String}
    (distinct : (claimed ++ storages.map Text.lowerAscii).Nodup) :
    claim table column claimed storages = .ok (claimed ++ storages.map Text.lowerAscii) := by
  induction storages generalizing claimed with
  | nil => simp [claim]
  | cons storage rest ih =>
    rw [claim, if_neg (ne_true_of_eq_false (contains_eq_false_of_nodup distinct)),
      ih (by simpa using distinct)]
    simp

theorem claim_of_clash {table column : String} {claimed before after : List String}
    {storage : String} (unclashed : (claimed ++ before.map Text.lowerAscii).Nodup)
    (clash : Text.lowerAscii storage ∈ claimed ++ before.map Text.lowerAscii) :
    claim table column claimed (before ++ storage :: after) =
      .error (.duplicateStorageColumn table storage column) := by
  induction before generalizing claimed with
  | nil =>
    have taken : claimed.contains (Text.lowerAscii storage) = true := by simpa using clash
    rw [List.nil_append, claim, if_pos taken]
  | cons first rest ih =>
    rw [List.cons_append, claim,
      if_neg (ne_true_of_eq_false (contains_eq_false_of_nodup unclashed))]
    exact ih (by simpa using unclashed) (by simpa using clash)

theorem exists_first_clash {claimed storages : List String} (distinct : claimed.Nodup)
    (clashing : ¬(claimed ++ storages.map Text.lowerAscii).Nodup) :
    ∃ before storage after, storages = before ++ storage :: after ∧
      (claimed ++ before.map Text.lowerAscii).Nodup ∧
      Text.lowerAscii storage ∈ claimed ++ before.map Text.lowerAscii := by
  induction storages generalizing claimed with
  | nil => simp [distinct] at clashing
  | cons storage rest ih =>
    by_cases taken : Text.lowerAscii storage ∈ claimed
    · exact ⟨[], storage, rest, rfl, by simpa using distinct, by simpa using taken⟩
    · have extended : (claimed ++ [Text.lowerAscii storage]).Nodup := by
        rw [← List.concat_eq_append, List.nodup_concat]
        exact ⟨taken, distinct⟩
      obtain ⟨before, later, after, split, unclashed, clash⟩ :=
        ih extended (by simpa using clashing)
      exact ⟨storage :: before, later, after, by rw [split]; rfl, by simpa using unclashed,
        by simpa using clash⟩

/-! ### One column -/

variable {registry : CapabilityRegistry}

theorem builds_name {config : ColumnConfig} {column : Column} (built : Builds registry config column) :
    column.name = config.name :=
  built.follows.1

theorem names_of_builds {done : List ColumnConfig} {columns : List Column}
    (built : List.Forall₂ (Builds registry) done columns) :
    columns.map (·.name) = done.map (·.name) := by
  induction built with
  | nil => rfl
  | cons first _ ih => simp [builds_name first, ih]

theorem names_of_reached {done : List ColumnConfig} {progress : Progress}
    (reached : Reached registry done progress) :
    progress.columns.map (·.name) = done.map (·.name) :=
  names_of_builds reached.columns

theorem any_name_iff {done : List ColumnConfig} {progress : Progress} {config : ColumnConfig}
    (reached : Reached registry done progress) :
    progress.columns.any (·.name = config.name) = true ↔ config.name ∈ done.map (·.name) := by
  rw [← names_of_reached reached]
  simp

theorem any_name_eq_false {done : List ColumnConfig} {progress : Progress}
    {config : ColumnConfig} (reached : Reached registry done progress)
    (fresh : config.name ∉ done.map (·.name)) :
    progress.columns.any (·.name = config.name) = false := by
  rw [← Bool.not_eq_true, any_name_iff reached]
  exact fresh

theorem bindItem_of_found {α : Type} (role : Role) (table column suffix : String)
    {find : String → Option (Handle α)} {configured : Option ItemConfig}
    (found : ∀ item ∈ configured, (find item.encryptor).isSome) :
    ∃ bound, bindItem role find table column suffix configured = .ok bound ∧
      Option.Rel (Binding.Follows find) configured bound ∧
      bound.map (·.storage) = configured.map fun item => storageName item.name column suffix := by
  cases configured with
  | none => exact ⟨none, rfl, .none, rfl⟩
  | some item =>
    obtain ⟨handle, filed⟩ := Option.isSome_iff_exists.mp (found item rfl)
    exact ⟨some ⟨storageName item.name column suffix, item.encryptor, handle⟩,
      by simp [bindItem, filed], .some ⟨rfl, filed⟩, rfl⟩

theorem bindItem_of_missing {α : Type} {role : Role} {find : String → Option (Handle α)}
    {table column suffix : String} {item : ItemConfig} (missing : find item.encryptor = none) :
    bindItem role find table column suffix (some item) =
      .error (.roleMismatch role item.encryptor table column) := by
  simp [bindItem, missing]

theorem cipherKey_mem_claimsOf {done : List ColumnConfig} {config : ColumnConfig}
    (member : config ∈ done) : Text.lowerAscii config.cipherStorage ∈ claimsOf done := by
  simp only [claimsOf, List.mem_map, List.mem_flatMap]
  exact ⟨config.cipherStorage, ⟨config, member, by simp [ColumnConfig.storageNames]⟩, rfl⟩

variable {done : List ColumnConfig} {progress : Progress} {config : ColumnConfig}

theorem addColumn_of_passes (table : String) (reached : Reached registry done progress)
    (passes : ColumnPasses registry done config) :
    ∃ column, Builds registry config column ∧
      addColumn table registry progress config =
        .ok { columns := progress.columns ++ [column],
              claimed := progress.claimed ++ config.storageNames.map Text.lowerAscii,
              cipherKeys := progress.cipherKeys ++ [Text.lowerAscii config.cipherStorage] } := by
  obtain ⟨named, fresh, ⟨cipherFiled, assistedFiled, likeFiled⟩, distinct⟩ := passes
  have unseen := any_name_eq_false reached fresh
  obtain ⟨cipher, cipherFound⟩ := Option.isSome_iff_exists.mp cipherFiled
  obtain ⟨assisted, assistedBound, assistedFollows, assistedStorage⟩ :=
    bindItem_of_found .assistedQuery table config.name "_assisted" assistedFiled
  obtain ⟨like, likeBound, likeFollows, likeStorage⟩ :=
    bindItem_of_found .likeQuery table config.name "_like" likeFiled
  have storages : storageName config.cipher.name config.name "" ::
      ((assisted.map (·.storage)).toList ++ (like.map (·.storage)).toList) = config.storageNames := by
    rw [assistedStorage, likeStorage]
    rfl
  have claimed : claim table config.name progress.claimed
      (storageName config.cipher.name config.name "" ::
        ((assisted.map (·.storage)).toList ++ (like.map (·.storage)).toList)) =
      .ok (progress.claimed ++ config.storageNames.map Text.lowerAscii) := by
    rw [storages, reached.claimed]
    exact claim_of_distinct distinct
  -- the cipher storage name is claimed for the first time, so it is not indexed yet
  have keyFresh :
      Text.lowerAscii (storageName config.cipher.name config.name "") ∉ progress.cipherKeys := by
    rw [reached.cipherKeys]
    intro indexed
    obtain ⟨earlier, member, same⟩ := List.mem_map.mp indexed
    have claimedBefore := cipherKey_mem_claimsOf member
    rw [same] at claimedBefore
    exact (List.nodup_append.mp distinct).2.2 _ claimedBefore _
      (by simp [ColumnConfig.storageNames, ColumnConfig.cipherStorage]) rfl
  refine ⟨⟨config.name, ⟨config.cipherStorage, config.cipher.encryptor, cipher⟩, assisted, like⟩,
    ⟨⟨rfl, ⟨rfl, cipherFound⟩, assistedFollows, likeFollows⟩, rfl, assistedStorage, likeStorage⟩, ?_⟩
  simp [addColumn, named, unseen, cipherFound, assistedBound, likeBound, claimed, keyFresh, bind,
    Except.bind, pure, Except.pure, ColumnConfig.cipherStorage]

theorem addColumn_of_columnFault {table : String} (reached : Reached registry done progress)
    {fault : Fault}
    (failing : ColumnFault registry table done config fault) :
    addColumn table registry progress config = .error fault := by
  cases failing with
  | emptyName empty => simp [addColumn, empty, throw, throwThe, MonadExceptOf.throw, bind, Except.bind]
  | duplicateName named seen =>
    have repeated := (any_name_iff reached).mpr seen
    simp [addColumn, named, repeated, throw, throwThe, MonadExceptOf.throw, bind, Except.bind]
  | cipher named fresh unfiled =>
    simp [addColumn, named, any_name_eq_false reached fresh, unfiled, throw, throwThe,
      MonadExceptOf.throw]
  | @assistedQuery item named fresh cipherFiled configured unfiled =>
    obtain ⟨cipher, cipherFound⟩ := Option.isSome_iff_exists.mp cipherFiled
    have refused : bindItem .assistedQuery registry.findAssistedQuery? table config.name "_assisted"
        config.assistedQuery = .error (.roleMismatch .assistedQuery item.encryptor table config.name) := by
      rw [configured]
      exact bindItem_of_missing unfiled
    simp [addColumn, named, any_name_eq_false reached fresh, cipherFound, refused, bind,
      Except.bind]
  | @likeQuery item named fresh cipherFiled assistedFiled configured unfiled =>
    obtain ⟨cipher, cipherFound⟩ := Option.isSome_iff_exists.mp cipherFiled
    obtain ⟨assisted, assistedBound, -⟩ :=
      bindItem_of_found .assistedQuery table config.name "_assisted" assistedFiled
    have refused : bindItem .likeQuery registry.findLikeQuery? table config.name "_like"
        config.likeQuery = .error (.roleMismatch .likeQuery item.encryptor table config.name) := by
      rw [configured]
      exact bindItem_of_missing unfiled
    simp [addColumn, named, any_name_eq_false reached fresh, cipherFound, assistedBound, refused,
      bind, Except.bind]
  | @storage before after storage named fresh filed split unclashed clash =>
    obtain ⟨cipherFiled, assistedFiled, likeFiled⟩ := filed
    obtain ⟨cipher, cipherFound⟩ := Option.isSome_iff_exists.mp cipherFiled
    obtain ⟨assisted, assistedBound, -, assistedStorage⟩ :=
      bindItem_of_found .assistedQuery table config.name "_assisted" assistedFiled
    obtain ⟨like, likeBound, -, likeStorage⟩ :=
      bindItem_of_found .likeQuery table config.name "_like" likeFiled
    have refused : claim table config.name progress.claimed
        (storageName config.cipher.name config.name "" ::
          ((assisted.map (·.storage)).toList ++ (like.map (·.storage)).toList)) =
        .error (.duplicateStorageColumn table storage config.name) := by
      have storages : storageName config.cipher.name config.name "" ::
          ((assisted.map (·.storage)).toList ++ (like.map (·.storage)).toList) =
            config.storageNames := by
        rw [assistedStorage, likeStorage]
        rfl
      rw [storages, split, reached.claimed]
      exact claim_of_clash unclashed clash
    simp [addColumn, named, any_name_eq_false reached fresh, cipherFound, assistedBound, likeBound,
      refused, bind, Except.bind]

theorem found_or_missing {α : Type} (find : String → Option (Handle α))
    (configured : Option ItemConfig) :
    (∀ item ∈ configured, (find item.encryptor).isSome) ∨
      ∃ item, configured = some item ∧ find item.encryptor = none := by
  cases configured with
  | none => exact .inl (by simp)
  | some item =>
    cases found : find item.encryptor with
    | none => exact .inr ⟨item, rfl, found⟩
    | some handle => exact .inl (by simp [found])

theorem exists_columnFault (table : String) (distinct : (claimsOf done).Nodup)
    (failing : ¬ColumnPasses registry done config) :
    ∃ fault, ColumnFault registry table done config fault := by
  rcases em (config.name = "") with empty | named
  · exact ⟨_, .emptyName empty⟩
  rcases em (config.name ∈ done.map (·.name)) with seen | fresh
  · exact ⟨_, .duplicateName named seen⟩
  cases cipherFound : registry.findCipher? config.cipher.encryptor with
  | none => exact ⟨_, .cipher named fresh cipherFound⟩
  | some cipher =>
    have cipherFiled : (registry.findCipher? config.cipher.encryptor).isSome := by
      simp [cipherFound]
    rcases found_or_missing registry.findAssistedQuery? config.assistedQuery with
      assistedFiled | ⟨item, configured, missing⟩
    · rcases found_or_missing registry.findLikeQuery? config.likeQuery with
        likeFiled | ⟨item, configured, missing⟩
      · -- every role is filed, so the failure is a clash among the storage names
        have filed : config.RolesFiled registry := ⟨cipherFiled, assistedFiled, likeFiled⟩
        have clashing : ¬(claimsOf done ++ config.storageNames.map Text.lowerAscii).Nodup :=
          fun distinctAll => failing ⟨named, fresh, filed, distinctAll⟩
        obtain ⟨before, storage, after, split, unclashed, clash⟩ :=
          exists_first_clash distinct clashing
        exact ⟨_, .storage named fresh filed split unclashed clash⟩
      · exact ⟨_, .likeQuery named fresh cipherFiled assistedFiled configured missing⟩
    · exact ⟨_, .assistedQuery named fresh cipherFiled configured missing⟩

theorem addColumn_eq_error_iff {table : String} (reached : Reached registry done progress)
    (distinct : (claimsOf done).Nodup) {fault : Fault} :
    addColumn table registry progress config = .error fault ↔
      ColumnFault registry table done config fault := by
  constructor
  · intro refused
    by_cases passes : ColumnPasses registry done config
    · obtain ⟨_, -, added⟩ := addColumn_of_passes table reached passes
      rw [added] at refused
      cases refused
    · obtain ⟨other, failing⟩ := exists_columnFault table distinct passes
      rw [addColumn_of_columnFault reached failing] at refused
      cases refused
      exact failing
  · exact addColumn_of_columnFault reached

theorem reached_append {column : Column} (reached : Reached registry done progress)
    (built : Builds registry config column) :
    Reached registry (done ++ [config])
      { columns := progress.columns ++ [column],
        claimed := progress.claimed ++ config.storageNames.map Text.lowerAscii,
        cipherKeys := progress.cipherKeys ++ [Text.lowerAscii config.cipherStorage] } where
  columns := List.rel_append reached.columns (.cons built .nil)
  claimed := by rw [reached.claimed, claimsOf_append, claimsOf_singleton]
  cipherKeys := by simp [reached.cipherKeys]

theorem passes_of_addColumn_eq_ok {table : String} (reached : Reached registry done progress)
    (distinct : (claimsOf done).Nodup) {next : Progress}
    (added : addColumn table registry progress config = .ok next) :
    ColumnPasses registry done config ∧ Reached registry (done ++ [config]) next := by
  by_cases passes : ColumnPasses registry done config
  · obtain ⟨column, built, added'⟩ := addColumn_of_passes table reached passes
    rw [added', Except.ok.injEq] at added
    subst added
    exact ⟨passes, reached_append reached built⟩
  · obtain ⟨fault, failing⟩ := exists_columnFault table distinct passes
    rw [addColumn_of_columnFault reached failing] at added
    cases added

/-! ### The columns of a table -/

theorem columnsPass_nil : ColumnsPass registry [] := by
  simp [ColumnsPass, claimsOf]

theorem reached_nil : Reached registry [] {} where
  columns := .nil
  claimed := rfl
  cipherKeys := rfl

theorem columnsPass_append_singleton :
    ColumnsPass registry (done ++ [config]) ↔
      ColumnsPass registry done ∧ ColumnPasses registry done config := by
  simp only [ColumnsPass, ColumnPasses, List.forall_mem_append, List.forall_mem_singleton,
    List.map_append, List.map_cons, List.map_nil, claimsOf_append, claimsOf_singleton]
  rw [← List.concat_eq_append, List.nodup_concat]
  constructor
  · rintro ⟨⟨namedAll, named⟩, ⟨fresh, distinctNames⟩, ⟨filedAll, filed⟩, distinct⟩
    exact ⟨⟨namedAll, distinctNames, filedAll, distinct.of_append_left⟩, named, fresh, filed,
      distinct⟩
  · rintro ⟨⟨namedAll, distinctNames, filedAll, -⟩, named, fresh, filed, distinct⟩
    exact ⟨⟨namedAll, named⟩, ⟨fresh, distinctNames⟩, ⟨filedAll, filed⟩, distinct⟩

theorem ColumnsPass.of_append_left {more : List ColumnConfig}
    (passed : ColumnsPass registry (done ++ more)) : ColumnsPass registry done := by
  obtain ⟨namedAll, distinctNames, filedAll, distinct⟩ := passed
  refine ⟨fun column member => namedAll column (List.mem_append_left _ member),
    ?_, fun column member => filedAll column (List.mem_append_left _ member), ?_⟩
  · rw [List.map_append] at distinctNames
    exact distinctNames.of_append_left
  · rw [claimsOf_append] at distinct
    exact distinct.of_append_left

theorem foldlM_addColumn_of_pass (table : String) {configs : List ColumnConfig}
    (reached : Reached registry done progress) (passes : ColumnsPass registry (done ++ configs)) :
    ∃ result, configs.foldlM (addColumn table registry) progress = .ok result ∧
      Reached registry (done ++ configs) result := by
  induction configs generalizing done progress with
  | nil => exact ⟨progress, rfl, by simpa using reached⟩
  | cons config rest ih =>
    have passesFirst : ColumnsPass registry (done ++ [config]) :=
      ColumnsPass.of_append_left (show ColumnsPass registry (done ++ [config] ++ rest) by
        simpa using passes)
    obtain ⟨column, built, added⟩ :=
      addColumn_of_passes table reached (columnsPass_append_singleton.mp passesFirst).2
    obtain ⟨result, ran, reachedAll⟩ :=
      ih (reached_append reached built) (by simpa using passes)
    exact ⟨result, by simp [added, ran, bind, Except.bind], by simpa using reachedAll⟩

theorem pass_of_foldlM_addColumn_eq_ok {table : String} {configs : List ColumnConfig} {result : Progress}
    (reached : Reached registry done progress) (passed : ColumnsPass registry done)
    (ran : configs.foldlM (addColumn table registry) progress = .ok result) :
    ColumnsPass registry (done ++ configs) ∧ Reached registry (done ++ configs) result := by
  induction configs generalizing done progress with
  | nil =>
    simp only [List.foldlM_nil, except_pure_eq_ok] at ran
    subst ran
    simpa using ⟨passed, reached⟩
  | cons config rest ih =>
    rw [List.foldlM_cons, except_bind_eq_ok] at ran
    obtain ⟨next, added, ranRest⟩ := ran
    obtain ⟨passes, reachedNext⟩ := passes_of_addColumn_eq_ok reached passed.2.2.2 added
    have passedNext := columnsPass_append_singleton.mpr ⟨passed, passes⟩
    simpa using ih reachedNext passedNext ranRest

/-! ### Lookups of a built table -/

theorem exists_of_rel_some_left {α β : Type} {relation : α → β → Prop} {item : α}
    {right : Option β} (related : Option.Rel relation (some item) right) :
    ∃ item', right = some item' ∧ relation item item' := by
  cases related with
  | some holds => exact ⟨_, rfl, holds⟩

theorem eq_none_of_rel_none {α β : Type} {relation : α → β → Prop} {right : Option β}
    (related : Option.Rel relation none right) : right = none := by
  cases related
  rfl

theorem cipherKeys_sublist_claimsOf (columns : List ColumnConfig) :
    (columns.map fun config => Text.lowerAscii config.cipherStorage).Sublist (claimsOf columns) := by
  induction columns with
  | nil => exact .slnil
  | cons config rest ih =>
    have unfolded : claimsOf (config :: rest) = Text.lowerAscii config.cipherStorage ::
        (config.storageNames.tail.map Text.lowerAscii ++ claimsOf rest) := by
      simp [claimsOf, ColumnConfig.storageNames]
    rw [List.map_cons, unfolded]
    exact (ih.trans (List.sublist_append_right _ _)).cons_cons _

theorem eq_of_cipherStorage {columns : List ColumnConfig} (passed : ColumnsPass registry columns)
    {first second : ColumnConfig} (firstMember : first ∈ columns) (secondMember : second ∈ columns)
    (same : Text.lowerAscii first.cipherStorage = Text.lowerAscii second.cipherStorage) :
    first = second :=
  List.inj_on_of_nodup_map ((cipherKeys_sublist_claimsOf columns).nodup passed.2.2.2) firstMember
    secondMember same

section Lookups

variable {configs : List ColumnConfig} {columns : List Column}

theorem column?_rel_of_builds (built : List.Forall₂ (Builds registry) configs columns)
    (logic : String) :
    Option.Rel (Builds registry) (configs.find? (·.name = logic)) (columns.find? (·.name = logic)) :=
  find?_rel_of_forall₂ (fun _ _ builds => by simp [builds_name builds]) built

theorem columnOfCipher?_rel_of_builds (built : List.Forall₂ (Builds registry) configs columns)
    (storage : String) :
    Option.Rel (Builds registry)
      (configs.find? fun config => Text.lowerAscii config.cipherStorage = Text.lowerAscii storage)
      (columns.find? fun column => Text.lowerAscii column.cipher.storage = Text.lowerAscii storage) :=
  find?_rel_of_forall₂ (fun _ _ builds => by simp [builds.cipherStorage]) built

theorem finds_of_builds {config : TableConfig}
    (built : List.Forall₂ (Builds registry) config.columns columns)
    (passed : ColumnsPass registry config.columns) :
    Finds registry config ⟨config.name, columns⟩ where
  name := rfl
  logicColumns := names_of_builds built
  column? := column?_rel_of_builds built
  isEncryptColumn logic := by
    simp only [isEncryptColumn, Table.column?]
    rw [← isSome_eq_of_rel (column?_rel_of_builds built logic), List.find?_isSome]
    simp
  isCipherColumn storage := by
    simp only [isCipherColumn, columnOfCipher?]
    rw [← isSome_eq_of_rel (columnOfCipher?_rel_of_builds built storage), List.find?_isSome]
    simp
  logicColumnOfCipher storage column configured same := by
    -- the first configured column of that cipher storage name is the only one
    obtain ⟨found, foundFirst⟩ : ∃ found, (config.columns.find? fun column =>
        Text.lowerAscii column.cipherStorage = Text.lowerAscii storage) = some found :=
      Option.isSome_iff_exists.mp (List.find?_isSome.mpr ⟨column, configured, by simpa using same⟩)
    have matching : Text.lowerAscii found.cipherStorage = Text.lowerAscii storage := by
      simpa using List.find?_some foundFirst
    have sameColumn : found = column :=
      eq_of_cipherStorage passed (List.mem_of_find?_eq_some foundFirst) configured
        (matching.trans same.symm)
    have related := columnOfCipher?_rel_of_builds built storage
    rw [foundFirst] at related
    obtain ⟨builtColumn, located, builds⟩ := exists_of_rel_some_left related
    simp only [logicColumnOfCipher, columnOfCipher?, located, builds_name builds, sameColumn]
  cipherColumnNotFound storage unmatched := by
    have unfound : (config.columns.find? fun column =>
        Text.lowerAscii column.cipherStorage = Text.lowerAscii storage) = none :=
      List.find?_eq_none.mpr fun column member matching =>
        unmatched column member (of_decide_eq_true matching)
    have related := columnOfCipher?_rel_of_builds built storage
    rw [unfound] at related
    simp only [logicColumnOfCipher, columnOfCipher?, eq_none_of_rel_none related]

end Lookups

/-! ### A table -/

theorem build_of_empty_name {config : TableConfig} (empty : config.name = "") :
    Table.build config registry = .error .emptyTableName := by
  simp [Table.build, empty, throw, throwThe, MonadExceptOf.throw, bind, Except.bind]

theorem build_of_named {config : TableConfig} (named : config.name ≠ "") :
    Table.build config registry =
      config.columns.foldlM (addColumn config.name registry) {} >>= fun progress =>
        pure ⟨config.name, progress.columns⟩ := by
  simp [Table.build, named]

theorem reached_of_build_eq_ok {config : TableConfig} {table : Table}
    (built : Table.build config registry = .ok table) :
    config.name ≠ "" ∧ ColumnsPass registry config.columns ∧ ∃ progress,
      Reached registry config.columns progress ∧ table = ⟨config.name, progress.columns⟩ := by
  rcases em (config.name = "") with empty | named
  · rw [build_of_empty_name empty] at built
    cases built
  · rw [build_of_named named, except_bind_eq_ok] at built
    obtain ⟨progress, ran, made⟩ := built
    obtain ⟨passed, reached⟩ := pass_of_foldlM_addColumn_eq_ok reached_nil columnsPass_nil ran
    rw [List.nil_append] at passed reached
    exact ⟨named, passed, progress, reached, (except_pure_eq_ok.mp made).symm⟩

theorem exists_build_eq_ok_iff (config : TableConfig) :
    (∃ table, Table.build config registry = .ok table) ↔
      config.name ≠ "" ∧ ColumnsPass registry config.columns := by
  constructor
  · rintro ⟨table, built⟩
    obtain ⟨named, passed, -⟩ := reached_of_build_eq_ok built
    exact ⟨named, passed⟩
  · rintro ⟨named, passes⟩
    obtain ⟨result, ran, -⟩ := foldlM_addColumn_of_pass config.name reached_nil
      (show ColumnsPass registry ([] ++ config.columns) by simpa using passes)
    exact ⟨_, by rw [build_of_named named, ran]; rfl⟩

theorem build_eq_error_iff_tableFault (config : TableConfig) (fault : Fault) :
    Table.build config registry = .error fault ↔ TableFault registry config fault := by
  constructor
  · intro refused
    rcases em (config.name = "") with empty | named
    · rw [build_of_empty_name empty] at refused
      cases refused
      exact .emptyName empty
    · rw [build_of_named named, except_bind_eq_error] at refused
      rcases refused with failed | ⟨_, -, wrapped⟩
      · -- the columns before the failing one passed, so the step's fault is the column's
        obtain ⟨before, column, after, reached, split, ranBefore, refusedColumn⟩ :=
          (foldlM_eq_error_iff _ _ _ _).mp failed
        obtain ⟨passedBefore, reachedBefore⟩ :=
          pass_of_foldlM_addColumn_eq_ok reached_nil columnsPass_nil ranBefore
        rw [List.nil_append] at passedBefore reachedBefore
        exact .column named split passedBefore
          ((addColumn_eq_error_iff reachedBefore passedBefore.2.2.2).mp refusedColumn)
      · exact absurd wrapped except_pure_ne_error
  · intro reported
    cases reported with
    | emptyName empty => exact build_of_empty_name empty
    | @column before after column fault named split passed failed =>
      obtain ⟨reached, ranBefore, reachedBefore⟩ := foldlM_addColumn_of_pass config.name reached_nil
        (show ColumnsPass registry ([] ++ before) by simpa using passed)
      rw [List.nil_append] at reachedBefore
      rw [build_of_named named, except_bind_eq_error]
      exact .inl ((foldlM_eq_error_iff _ _ _ _).mpr
        ⟨before, column, after, reached, split, ranBefore,
          addColumn_of_columnFault reachedBefore failed⟩)

theorem finds_of_build_eq_ok {config : TableConfig} {table : Table}
    (built : Table.build config registry = .ok table) : Finds registry config table := by
  obtain ⟨-, passed, progress, reached, rfl⟩ := reached_of_build_eq_ok built
  exact finds_of_builds reached.columns passed

/-- A table builds exactly when it has a name and its columns pass their checks. A table that
fails reports the fault `TableFault` describes: no name, or the first failing check of the first
column, in declaration order, that fails one, with the checks of a column in the order logic name,
duplicate logic name, cipher, assisted query, like query, storage names. A built table finds its
columns by exact logic name, each built as configured, and by cipher storage name with letters
compared case-blind, every spelling of a column's cipher storage name finding that column. -/
theorem build_checks_and_lookups (config : TableConfig) (registry : CapabilityRegistry) :
    ((∃ table, Table.build config registry = .ok table) ↔
      config.name ≠ "" ∧ ColumnsPass registry config.columns) ∧
    (∀ fault, Table.build config registry = .error fault ↔ TableFault registry config fault) ∧
    ∀ table, Table.build config registry = .ok table → Finds registry config table :=
  ⟨exists_build_eq_ok_iff config, build_eq_error_iff_tableFault config,
    fun _ built => finds_of_build_eq_ok built⟩

end Table

end ColumnCrypt
