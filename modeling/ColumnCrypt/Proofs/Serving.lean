import ColumnCrypt.Proofs.Classification
import ColumnCrypt.Proofs.Routing
import ColumnCrypt.Proofs.TableChecks

/-!
Every handle that a built rule holds serves in its role: filing by capability keeps a handle only
where the flag is claimed too, and a table refuses an encryptor filed nowhere in the role; where
that reference is the first check to fail, the build reports a role mismatch
(`built_handles_serve`).
-/

namespace ColumnCrypt

theorem exists_of_mem_right_of_forall₂ {α β : Type} {relation : α → β → Prop} {left : List α}
    {right : List β} (related : List.Forall₂ relation left right) {item' : β}
    (member : item' ∈ right) : ∃ item ∈ left, relation item item' := by
  induction related with
  | nil => cases member
  | @cons item other _ _ first _ ih =>
    rcases List.mem_cons.mp member with rfl | later
    · exact ⟨item, List.mem_cons_self, first⟩
    · obtain ⟨found, listed, holds⟩ := ih later
      exact ⟨found, List.mem_cons_of_mem _ listed, holds⟩

namespace ColumnConfig

def references (config : ColumnConfig) : List (Role × String) :=
  (Role.cipher, config.cipher.encryptor) ::
    ((config.assistedQuery.map fun item => (Role.assistedQuery, item.encryptor)).toList ++
      (config.likeQuery.map fun item => (Role.likeQuery, item.encryptor)).toList)

theorem rolesFiled_iff {registry : CapabilityRegistry} {config : ColumnConfig} :
    config.RolesFiled registry ↔
      ∀ reference ∈ config.references, (registry.find? reference.1 reference.2).isSome := by
  constructor
  · rintro ⟨cipherFiled, assistedFiled, likeFiled⟩ reference member
    simp only [references, List.mem_cons, List.mem_append, Option.mem_toList,
      Option.map_eq_some_iff] at member
    rcases member with rfl | ⟨item, configured, rfl⟩ | ⟨item, configured, rfl⟩
    · exact cipherFiled
    · exact assistedFiled item configured
    · exact likeFiled item configured
  · intro filed
    refine ⟨filed _ List.mem_cons_self,
      fun item configured => filed (.assistedQuery, item.encryptor) ?_,
      fun item configured => filed (.likeQuery, item.encryptor) ?_⟩
    · simp [references, Option.mem_def.mp configured]
    · simp [references, Option.mem_def.mp configured]

theorem cases_of_references_eq_append {config : ColumnConfig}
    {checked unchecked : List (Role × String)} {role : Role} {encryptor : String}
    (split : config.references = checked ++ (role, encryptor) :: unchecked) :
    (checked = [] ∧ role = .cipher ∧ encryptor = config.cipher.encryptor) ∨
    (∃ item, config.assistedQuery = some item ∧ checked = [(.cipher, config.cipher.encryptor)] ∧
      role = .assistedQuery ∧ encryptor = item.encryptor) ∨
    (∃ item, config.likeQuery = some item ∧
      checked = (.cipher, config.cipher.encryptor) ::
        (config.assistedQuery.map fun assisted => (Role.assistedQuery, assisted.encryptor)).toList ∧
      role = .likeQuery ∧ encryptor = item.encryptor) := by
  unfold references at split
  cases checked with
  | nil =>
    simp only [List.nil_append, List.cons.injEq, Prod.mk.injEq] at split
    exact .inl ⟨rfl, split.1.1.symm, split.1.2.symm⟩
  | cons first checked =>
    simp only [List.cons_append, List.cons.injEq] at split
    obtain ⟨rfl, rest⟩ := split
    cases assisted : config.assistedQuery with
    | none =>
      cases like : config.likeQuery with
      | none => simp [assisted, like] at rest
      | some item =>
        simp [assisted, like, List.cons_eq_append_iff] at rest
        obtain ⟨rfl, ⟨rfl, rfl⟩, -⟩ := rest
        exact .inr (.inr ⟨item, rfl, rfl, rfl, rfl⟩)
    | some item =>
      simp [assisted, List.cons_eq_append_iff] at rest
      rcases rest with ⟨rfl, ⟨rfl, rfl⟩, -⟩ | ⟨later, rfl, tail⟩
      · exact .inr (.inl ⟨item, rfl, rfl, rfl, rfl⟩)
      · -- the assisted-query item is checked before, so the reference is the like-query item
        cases like : config.likeQuery with
        | none => simp [like] at tail
        | some likeItem =>
          simp [like, List.cons_eq_append_iff] at tail
          obtain ⟨rfl, ⟨rfl, rfl⟩, -⟩ := tail
          exact .inr (.inr ⟨likeItem, rfl, rfl, rfl, rfl⟩)

end ColumnConfig

namespace Table

theorem columnFault_of_references {registry : CapabilityRegistry} (table : String)
    {earlier : List ColumnConfig} {config : ColumnConfig} (named : config.name ≠ "")
    (fresh : config.name ∉ earlier.map (·.name)) {checked unchecked : List (Role × String)}
    {role : Role} {encryptor : String}
    (split : config.references = checked ++ (role, encryptor) :: unchecked)
    (filedBefore : ∀ reference ∈ checked, (registry.find? reference.1 reference.2).isSome)
    (unfiled : registry.find? role encryptor = none) :
    ColumnFault registry table earlier config (.roleMismatch role encryptor table config.name) := by
  rcases ColumnConfig.cases_of_references_eq_append split with
    ⟨rfl, rfl, rfl⟩ | ⟨item, assisted, rfl, rfl, rfl⟩ | ⟨item, like, rfl, rfl, rfl⟩
  · exact .cipher named fresh unfiled
  · exact .assistedQuery named fresh (filedBefore _ List.mem_cons_self) assisted unfiled
  · -- the cipher and the assisted-query item, where configured, are checked before
    have assistedFiled : ∀ assisted ∈ config.assistedQuery,
        (registry.findAssistedQuery? assisted.encryptor).isSome := fun assisted configured =>
      filedBefore (.assistedQuery, assisted.encryptor) (by simp [Option.mem_def.mp configured])
    exact .likeQuery named fresh (filedBefore _ List.mem_cons_self) assistedFiled like unfiled

end Table

namespace Rule

/-- The configured encryptor of a name serves in a role with a handle: the factory resolves it, on
the build's occasion, to an instance that claims the role's capability and offers the handle. -/
def Serves (factory : Factory) (occasion : Nat) (config : RuleConfig) (role : Role)
    (name : String) (handle : Handle role.Algorithm) : Prop :=
  ∃ encryptor made, (name, encryptor) ∈ config.encryptors.entries ∧
    resolveEncryptor factory occasion (name, encryptor) = .ok made ∧
    made.capabilities.has role.capability = true ∧ made.handle role = some handle

variable {factory : Factory} {occasion : Nat} {config : RuleConfig}

theorem mem_zip_keys_of_mem {entries : List (String × EncryptorConfig)} {made : List Instance}
    (resolved : Resolves factory occasion entries made) {entry : String × EncryptorConfig}
    (member : entry ∈ entries) :
    ∃ offered, (entry.1, offered) ∈ (entries.map (·.1)).zip made ∧
      resolveEncryptor factory occasion entry = .ok offered := by
  induction resolved with
  | nil => cases member
  | @cons first offered _ _ resolvedFirst _ ih =>
    rcases List.mem_cons.mp member with rfl | later
    · exact ⟨offered, by simp, resolvedFirst⟩
    · obtain ⟨found, listed, resolvedEntry⟩ := ih later
      exact ⟨found, by simp [listed], resolvedEntry⟩

theorem eq_of_resolved {name : String} {encryptor encryptor' : EncryptorConfig}
    {made made' : Instance} (listed : (name, encryptor) ∈ config.encryptors.entries)
    (listed' : (name, encryptor') ∈ config.encryptors.entries)
    (resolved : resolveEncryptor factory occasion (name, encryptor) = .ok made)
    (resolved' : resolveEncryptor factory occasion (name, encryptor') = .ok made') :
    made = made' := by
  rw [Dictionary.eq_of_mem_of_mem listed listed', resolved'] at resolved
  exact (Except.ok.inj resolved).symm

theorem find?_registryOf_iff {made : List Instance}
    (resolved : Resolves factory occasion config.encryptors.entries made) {role : Role}
    {name : String} {handle : Handle role.Algorithm} :
    (registryOf config made).find? role name = some handle ↔
      Serves factory occasion config role name handle := by
  -- the registry classifies the instances in key order, one call per name
  have filing : registryOf config made =
      CapabilityRegistry.empty.classifyAll (config.encryptors.keys.zip made) := rfl
  rw [filing, CapabilityRegistry.find?_run, Option.bind_eq_some_iff]
  constructor
  · rintro ⟨last, located, offered⟩
    obtain ⟨member, serving⟩ := CapabilityRegistry.lastServing_eq_some located
    obtain ⟨encryptor, listed, resolvedName⟩ := exists_of_mem_zip_keys resolved member
    simp only [Instance.serves, Bool.and_eq_true] at serving
    exact ⟨encryptor, last, listed, resolvedName, serving.1, offered⟩
  · rintro ⟨encryptor, offered, listed, resolvedName, claims, handed⟩
    have serving : offered.serves role = true := by simp [Instance.serves, claims, handed]
    obtain ⟨filedAs, member, resolvedFiled⟩ := mem_zip_keys_of_mem resolved listed
    obtain rfl := eq_of_resolved listed listed resolvedName resolvedFiled
    obtain ⟨last, located⟩ := Option.isSome_iff_exists.mp
      (CapabilityRegistry.isSome_lastServing_iff.mpr ⟨offered, member, serving⟩)
    obtain ⟨lastMember, -⟩ := CapabilityRegistry.lastServing_eq_some located
    obtain ⟨encryptor', listed', resolvedLast⟩ := exists_of_mem_zip_keys resolved lastMember
    obtain rfl := eq_of_resolved listed' listed resolvedLast resolvedName
    exact ⟨last, located, handed⟩

theorem isSome_find?_registryOf_iff {made : List Instance}
    (resolved : Resolves factory occasion config.encryptors.entries made) {role : Role}
    {name : String} :
    ((registryOf config made).find? role name).isSome = true ↔
      ∃ handle, Serves factory occasion config role name handle := by
  rw [Option.isSome_iff_exists]
  exact exists_congr fun _ => find?_registryOf_iff resolved

/-- The bindings of a built rule, and the handles its lookups reach, serve in their roles. -/
structure ServingBindings (factory : Factory) (occasion : Nat) (config : RuleConfig) (rule : Rule) :
    Prop where
  cipher : ∀ table ∈ rule.tables, ∀ column ∈ table.columns,
    Serves factory occasion config .cipher column.cipher.encryptor column.cipher.handle
  assistedQuery : ∀ table ∈ rule.tables, ∀ column ∈ table.columns, ∀ binding ∈ column.assistedQuery,
    Serves factory occasion config .assistedQuery binding.encryptor binding.handle
  likeQuery : ∀ table ∈ rule.tables, ∀ column ∈ table.columns, ∀ binding ∈ column.likeQuery,
    Serves factory occasion config .likeQuery binding.encryptor binding.handle
  cipher_reached : ∀ name logic column, rule.column name logic = .ok column →
    Serves factory occasion config .cipher column.cipher.encryptor column.cipher.handle
  assisted_reached : ∀ name logic handle, rule.assistedQuery name logic = .ok handle →
    ∃ encryptor, Serves factory occasion config .assistedQuery encryptor handle
  like_reached : ∀ name logic handle, rule.likeQuery name logic = .ok handle →
    ∃ encryptor, Serves factory occasion config .likeQuery encryptor handle

variable {rule : Rule}

theorem exists_follows_of_build (built : build factory occasion config = .ok rule)
    {table : Table} (listed : table ∈ rule.tables) {column : Column}
    (member : column ∈ table.columns) :
    ∃ made, Resolves factory occasion config.encryptors.entries made ∧
      ∃ columnConfig, Table.Follows (registryOf config made) columnConfig column := by
  obtain ⟨made, tables, resolved, builtTables, -, rfl⟩ := build_eq_ok_iff.mp built
  obtain ⟨tableConfig, -, builtTable⟩ := exists_of_mem_right_of_forall₂ builtTables listed
  obtain ⟨-, follows, -⟩ := Table.build_eq_ok builtTable
  obtain ⟨columnConfig, -, followed⟩ := exists_of_mem_right_of_forall₂ follows member
  exact ⟨made, resolved, columnConfig, followed⟩

theorem serves_of_follows (role : Role) {made : List Instance}
    (resolved : Resolves factory occasion config.encryptors.entries made)
    {item : ItemConfig} {binding : Binding role.Algorithm}
    (follows : Table.Binding.Follows ((registryOf config made).find? role) item binding) :
    Serves factory occasion config role binding.encryptor binding.handle := by
  obtain ⟨sameEncryptor, found⟩ := follows
  rw [← sameEncryptor] at found
  exact (find?_registryOf_iff resolved).mp found

theorem follows_of_mem {α : Type} {find : String → Option (Handle α)}
    {items : Option ItemConfig} {bindings : Option (Binding α)}
    (related : Option.Rel (Table.Binding.Follows find) items bindings) {binding : Binding α}
    (present : binding ∈ bindings) : ∃ item, Table.Binding.Follows find item binding := by
  rw [Option.mem_def] at present
  rw [present] at related
  obtain ⟨item, -, follows⟩ := exists_of_rel_some related
  exact ⟨item, follows⟩

theorem servingBindings_of_build (built : build factory occasion config = .ok rule) :
    ServingBindings factory occasion config rule := by
  have cipher : ∀ table ∈ rule.tables, ∀ column ∈ table.columns,
      Serves factory occasion config .cipher column.cipher.encryptor column.cipher.handle := by
    intro table listed column member
    obtain ⟨made, resolved, columnConfig, -, follows, -, -⟩ :=
      exists_follows_of_build built listed member
    exact serves_of_follows .cipher resolved follows
  have assistedQuery : ∀ table ∈ rule.tables, ∀ column ∈ table.columns,
      ∀ binding ∈ column.assistedQuery,
        Serves factory occasion config .assistedQuery binding.encryptor binding.handle := by
    intro table listed column member binding present
    obtain ⟨made, resolved, columnConfig, -, -, related, -⟩ :=
      exists_follows_of_build built listed member
    obtain ⟨item, follows⟩ := follows_of_mem related present
    exact serves_of_follows .assistedQuery resolved follows
  have likeQuery : ∀ table ∈ rule.tables, ∀ column ∈ table.columns,
      ∀ binding ∈ column.likeQuery,
        Serves factory occasion config .likeQuery binding.encryptor binding.handle := by
    intro table listed column member binding present
    obtain ⟨made, resolved, columnConfig, -, -, -, related⟩ :=
      exists_follows_of_build built listed member
    obtain ⟨item, follows⟩ := follows_of_mem related present
    exact serves_of_follows .likeQuery resolved follows
  refine ⟨cipher, assistedQuery, likeQuery, ?_, ?_, ?_⟩
  · intro name logic column reached
    obtain ⟨table, found, present⟩ := column_eq_ok_iff.mp reached
    exact cipher table (List.mem_of_find?_eq_some found) column (List.mem_of_find?_eq_some present)
  · intro name logic handle reached
    obtain ⟨table, found, offered⟩ := assistedQuery_eq_ok_iff.mp reached
    simp only [Table.findAssistedQuery?, Option.bind_eq_some_iff, Option.map_eq_some_iff] at offered
    obtain ⟨column, present, binding, bound, rfl⟩ := offered
    exact ⟨binding.encryptor, assistedQuery table (List.mem_of_find?_eq_some found) column
      (List.mem_of_find?_eq_some present) binding bound⟩
  · intro name logic handle reached
    obtain ⟨table, found, offered⟩ := likeQuery_eq_ok_iff.mp reached
    simp only [Table.findLikeQuery?, Option.bind_eq_some_iff, Option.map_eq_some_iff] at offered
    obtain ⟨column, present, binding, bound, rfl⟩ := offered
    exact ⟨binding.encryptor, likeQuery table (List.mem_of_find?_eq_some found) column
      (List.mem_of_find?_eq_some present) binding bound⟩

theorem serves_of_build (built : build factory occasion config = .ok rule)
    {tableConfig : TableConfig} (listed : tableConfig ∈ config.tables)
    {columnConfig : ColumnConfig} (member : columnConfig ∈ tableConfig.columns)
    {reference : Role × String} (named : reference ∈ columnConfig.references) :
    ∃ handle, Serves factory occasion config reference.1 reference.2 handle := by
  obtain ⟨made, tables, resolved, builtTables, -, -⟩ := build_eq_ok_iff.mp built
  have passing := (exists_forall₂_iff (Table.build · (registryOf config made)) config.tables).mp
    ⟨tables, builtTables⟩ tableConfig listed
  obtain ⟨-, -, -, filed, -⟩ := (Table.exists_build_eq_ok_iff tableConfig).mp passing
  exact (isSome_find?_registryOf_iff resolved).mp
    (ColumnConfig.rolesFiled_iff.mp (filed columnConfig member) reference named)

/-- Where the check of a column's reference is the first to fail, because its encryptor does not
serve in the role, the build reports a role mismatch naming that encryptor. -/
theorem build_of_first_unserved {made : List Instance}
    (resolved : Resolves factory occasion config.encryptors.entries made)
    {before after : List TableConfig} {table : TableConfig}
    (split : config.tables = before ++ table :: after)
    (passed : TablesPass (registryOf config made) before)
    (fresh : ∀ earlier ∈ before, Text.lowerAscii earlier.name ≠ Text.lowerAscii table.name)
    (named : table.name ≠ "") {columnsBefore columnsAfter : List ColumnConfig}
    {column : ColumnConfig} (columnSplit : table.columns = columnsBefore ++ column :: columnsAfter)
    (columnsPassed : Table.ColumnsPass (registryOf config made) columnsBefore)
    (columnNamed : column.name ≠ "") (columnFresh : column.name ∉ columnsBefore.map (·.name))
    {checked unchecked : List (Role × String)} {role : Role} {encryptor : String}
    (referenceSplit : column.references = checked ++ (role, encryptor) :: unchecked)
    (servedBefore : ∀ reference ∈ checked,
      ∃ handle, Serves factory occasion config reference.1 reference.2 handle)
    (unserved : ¬ ∃ handle, Serves factory occasion config role encryptor handle) :
    build factory occasion config =
      .error (.roleMismatch role encryptor table.name column.name) := by
  have filedBefore : ∀ reference ∈ checked,
      ((registryOf config made).find? reference.1 reference.2).isSome :=
    fun reference member =>
      (isSome_find?_registryOf_iff resolved).mpr (servedBefore reference member)
  have unfiled : (registryOf config made).find? role encryptor = none := by
    cases found : (registryOf config made).find? role encryptor with
    | none => rfl
    | some handle => exact absurd ⟨handle, (find?_registryOf_iff resolved).mp found⟩ unserved
  have columnFailed := Table.columnFault_of_references table.name columnNamed
    columnFresh referenceSplit filedBefore unfiled
  have tableFailed := (Table.build_eq_error_iff_tableFault table _).mpr
    (.column named columnSplit columnsPassed columnFailed)
  exact build_eq_error_iff.mpr (.table resolved split passed fresh tableFailed)

/-- Whatever instances the factory hands out, every binding of a rule that builds, and every
handle that a lookup of its dispatch reaches, is a handle that the named encryptor's instance
offers in the role with the role's capability claimed. A column that names, for a role, an
encryptor that does not serve in it makes the build fail; where that reference is the first
check to fail, the fault is a role mismatch whose context is the encryptor's name. -/
theorem built_handles_serve (factory : Factory) (occasion : Nat) (config : RuleConfig) :
    (∀ rule, build factory occasion config = .ok rule →
      ServingBindings factory occasion config rule) ∧
    (∀ tableConfig ∈ config.tables, ∀ column ∈ tableConfig.columns,
      ∀ reference ∈ column.references,
        (¬ ∃ handle, Serves factory occasion config reference.1 reference.2 handle) →
        ∀ rule, build factory occasion config ≠ .ok rule) ∧
    (∀ (made : List Instance) (before after : List TableConfig) (table : TableConfig)
        (columnsBefore columnsAfter : List ColumnConfig) (column : ColumnConfig)
        (checked unchecked : List (Role × String)) (role : Role) (encryptor : String),
      Resolves factory occasion config.encryptors.entries made →
      config.tables = before ++ table :: after → TablesPass (registryOf config made) before →
      (∀ earlier ∈ before, Text.lowerAscii earlier.name ≠ Text.lowerAscii table.name) →
      table.name ≠ "" → table.columns = columnsBefore ++ column :: columnsAfter →
      Table.ColumnsPass (registryOf config made) columnsBefore → column.name ≠ "" →
      column.name ∉ columnsBefore.map (·.name) →
      column.references = checked ++ (role, encryptor) :: unchecked →
      (∀ reference ∈ checked,
        ∃ handle, Serves factory occasion config reference.1 reference.2 handle) →
      (¬ ∃ handle, Serves factory occasion config role encryptor handle) →
      build factory occasion config = .error (.roleMismatch role encryptor table.name column.name) ∧
        (Fault.roleMismatch role encryptor table.name column.name).code =
          .mismatchedAlgorithmType ∧
        (Fault.roleMismatch role encryptor table.name column.name).context = encryptor) := by
  refine ⟨fun _ built => servingBindings_of_build built, ?_, ?_⟩
  · intro tableConfig listed column member reference named unserved rule built
    exact unserved (serves_of_build built listed member named)
  · intro made before after table columnsBefore columnsAfter column checked unchecked role
      encryptor resolved split passed fresh named columnSplit columnsPassed columnNamed columnFresh
      referenceSplit servedBefore unserved
    exact ⟨build_of_first_unserved resolved split passed fresh named columnSplit columnsPassed
      columnNamed columnFresh referenceSplit servedBefore unserved, rfl, rfl⟩

theorem flag_without_handle_fails :
    let factory : Factory := ⟨fun _ type _ => .ok { type, capabilities := Capability.cipher }⟩
    let config : RuleConfig :=
      { encryptors := Dictionary.empty.insert "e" { type := "X" }
        tables := [{ name := "t", columns := [{ name := "c", cipher := { encryptor := "e" } }] }] }
    (¬ ∃ handle, Serves factory 0 config .cipher "e" handle) ∧
      (∀ rule, build factory 0 config ≠ .ok rule) ∧
      build factory 0 config = .error (.roleMismatch .cipher "e" "t" "c") := by
  intro factory config
  have unserved : ¬ ∃ handle, Serves factory 0 config .cipher "e" handle := by
    rintro ⟨handle, encryptor, made, listed, resolved, -, offered⟩
    have entries : config.encryptors.entries = [("e", { type := "X" })] := rfl
    rw [entries, List.mem_singleton, Prod.mk.injEq] at listed
    obtain ⟨-, rfl⟩ := listed
    cases resolved
    cases offered
  obtain ⟨-, refused, failsFirst⟩ := built_handles_serve factory 0 config
  refine ⟨unserved, refused _ List.mem_cons_self _ List.mem_cons_self (.cipher, "e")
    List.mem_cons_self unserved, ?_⟩
  exact (failsFirst [{ type := "X", capabilities := Capability.cipher }] [] [] _ [] [] _ [] []
    .cipher "e" (.cons rfl .nil) rfl ⟨List.Pairwise.nil, by simp⟩ (by simp) (by decide) rfl
    Table.columnsPass_nil (by decide) (by simp) rfl (by simp) unserved).1

end Rule

end ColumnCrypt
