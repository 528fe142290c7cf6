import ColumnCrypt.Proofs.Dispatch
import ColumnCrypt.Proofs.NameIndex
import ColumnCrypt.Proofs.Table
import ColumnCrypt.Session

/-!
What a built rule reaches: the table built from the one configured table of the name, letters
compared case-blind, and for every lookup the handle the factory made for the encryptor that the
column's configuration names (`follows_configuration_of_build`).
-/

namespace ColumnCrypt

namespace CapabilityRegistry

theorem find?_fileUnder {α : Type} {map : Dictionary α} {name other : String} {claims : Bool}
    {offered : Option α} {handle : α}
    (found : (fileUnder map name claims offered).find? other = some handle) :
    map.find? other = some handle ∨ other = name ∧ offered = some handle := by
  cases offered with
  | none => exact Or.inl found
  | some offer =>
    cases claims with
    | false => exact Or.inl found
    | true =>
      by_cases same : other = name
      · subst same
        simp only [fileUnder, if_true, Dictionary.find?_insert_self] at found
        exact Or.inr ⟨rfl, found⟩
      · simp only [fileUnder, if_true, Dictionary.find?_insert_other _ _ same] at found
        exact Or.inl found

theorem find?_fileAll {α : Type} (view : CapabilityRegistry → Dictionary (Handle α))
    (pick : Instance → Option (Handle α)) (claims : Instance → Bool)
    (filing : ∀ registry name made,
      view (registry.classify name made) = fileUnder (view registry) name (claims made) (pick made))
    {registry : CapabilityRegistry} {names : List String} {made : List Instance} {other : String}
    {handle : Handle α} (found : (view (registry.fileAll names made)).find? other = some handle) :
    (view registry).find? other = some handle ∨
      ∃ offered, (other, offered) ∈ names.zip made ∧ pick offered = some handle := by
  induction names generalizing registry made with
  | nil => exact Or.inl found
  | cons name names ih =>
    cases made with
    | nil => exact Or.inl found
    | cons first made =>
      rw [fileAll_cons] at found
      rcases ih found with earlier | ⟨offered, member, picked⟩
      · rw [filing] at earlier
        rcases find?_fileUnder earlier with before | ⟨rfl, picked⟩
        · exact Or.inl before
        · exact Or.inr ⟨first, by simp, picked⟩
      · exact Or.inr ⟨offered, by simp [member], picked⟩

end CapabilityRegistry

namespace Rule

variable {factory : Factory} {occasion : Nat} {config : RuleConfig}

/-- The handle is one that the factory made, on the build's occasion, for the configured
encryptor of the name, and that the instance offers in the role `pick` reads. -/
def MadeFor {α : Type} (factory : Factory) (occasion : Nat) (config : RuleConfig)
    (pick : Instance → Option (Handle α)) (name : String) (handle : Handle α) : Prop :=
  ∃ encryptor made, (name, encryptor) ∈ config.encryptors.entries ∧
    resolveEncryptor factory occasion (name, encryptor) = .ok made ∧ pick made = some handle

theorem exists_of_mem_zip_keys {entries : List (String × EncryptorConfig)}
    {made : List Instance} (resolved : Resolves factory occasion entries made) {name : String}
    {offered : Instance} (member : (name, offered) ∈ (entries.map (·.1)).zip made) :
    ∃ encryptor, (name, encryptor) ∈ entries ∧
      resolveEncryptor factory occasion (name, encryptor) = .ok offered := by
  induction resolved with
  | nil => simp at member
  | @cons entry first _ _ resolvedFirst _ ih =>
    simp only [List.map_cons, List.zip_cons_cons, List.mem_cons, Prod.mk.injEq] at member
    rcases member with ⟨rfl, rfl⟩ | later
    · exact ⟨entry.2, by simp, resolvedFirst⟩
    · obtain ⟨encryptor, listed, resolvedLater⟩ := ih later
      exact ⟨encryptor, List.mem_cons_of_mem _ listed, resolvedLater⟩

theorem madeFor_of_find? {α : Type} (view : CapabilityRegistry → Dictionary (Handle α))
    (pick : Instance → Option (Handle α)) (claims : Instance → Bool)
    (filing : ∀ registry name made,
      view (registry.classify name made) =
        CapabilityRegistry.fileUnder (view registry) name (claims made) (pick made))
    (empty : view CapabilityRegistry.empty = Dictionary.empty)
    {made : List Instance} (resolved : Resolves factory occasion config.encryptors.entries made)
    {name : String} {handle : Handle α}
    (found : (view (registryOf config made)).find? name = some handle) :
    MadeFor factory occasion config pick name handle := by
  rcases CapabilityRegistry.find?_fileAll view pick claims filing found with
    before | ⟨offered, member, picked⟩
  · rw [empty] at before
    cases before
  · obtain ⟨encryptor, listed, resolvedName⟩ := exists_of_mem_zip_keys resolved member
    exact ⟨encryptor, offered, listed, resolvedName, picked⟩

theorem MadeFor.same_instance {α β : Type} {pick : Instance → Option (Handle α)}
    {pick' : Instance → Option (Handle β)} {name : String} {handle : Handle α}
    {handle' : Handle β} (made : MadeFor factory occasion config pick name handle)
    (made' : MadeFor factory occasion config pick' name handle') :
    ∃ encryptor instance_, (name, encryptor) ∈ config.encryptors.entries ∧
      resolveEncryptor factory occasion (name, encryptor) = .ok instance_ ∧
      pick instance_ = some handle ∧ pick' instance_ = some handle' := by
  obtain ⟨encryptor, first, listed, resolvedFirst, picked⟩ := made
  obtain ⟨encryptor', second, listed', resolvedSecond, picked'⟩ := made'
  have sameEncryptor : encryptor' = encryptor := Dictionary.eq_of_mem_of_mem listed' listed
  subst sameEncryptor
  have sameInstance : second = first := by
    rw [resolvedFirst] at resolvedSecond
    exact (Except.ok.inj resolvedSecond).symm
  subst sameInstance
  exact ⟨encryptor', second, listed, resolvedFirst, picked, picked'⟩

theorem eq_of_distinctFolded {α : Type} {name : α → String} {items : List α}
    (distinct : Text.DistinctFolded (items.map name)) {item other : α} (member : item ∈ items)
    (member' : other ∈ items) (same : Text.lowerAscii (name item) = Text.lowerAscii (name other)) :
    item = other := by
  have folded : (items.map (fun item => Text.lowerAscii (name item))).Nodup := by
    have mapped := List.pairwise_map.mp distinct
    exact List.pairwise_map.mpr mapped
  exact List.inj_on_of_nodup_map folded member member' same

theorem names_foldl_put {tables : List Table} {start : TableNames}
    (fresh : ∀ table ∈ tables, start.contains table.name = false)
    (distinct : Text.DistinctFolded (tables.map (·.name))) :
    (tables.foldl (fun names table => names.put table.name) start).names =
      start.names ++ tables.map (·.name) := by
  induction tables generalizing start with
  | nil => simp
  | cons table rest ih =>
    simp only [List.map_cons, Text.DistinctFolded, List.pairwise_cons] at distinct
    have freshRest : ∀ other ∈ rest, (start.put table.name).contains other.name = false := by
      intro other member
      cases contained : (start.put table.name).contains other.name with
      | false => rfl
      | true =>
        rcases (TableNames.contains_put _ _ _).mp contained with same | before
        · exact absurd same (distinct.1 other.name (List.mem_map_of_mem member))
        · rw [fresh other (List.mem_cons_of_mem _ member)] at before
          cases before
    rw [List.foldl_cons, ih freshRest distinct.2,
      TableNames.names_put_of_contains_eq_false _ _ (fresh table List.mem_cons_self)]
    simp

variable {rule : Rule}

theorem table?_rel_of_build (built : build factory occasion config = .ok rule) (name : String) :
    Option.Rel (fun tableConfig table => Table.build tableConfig rule.registry = .ok table)
      (config.tables.find? (Text.lowerAscii ·.name = Text.lowerAscii name)) (rule.table? name) := by
  obtain ⟨made, tables, -, builtTables, -, rfl⟩ := build_eq_ok_iff.mp built
  exact find?_rel_of_forall₂ (fun _ _ succeeded => by rw [name_of_build succeeded]) builtTables

theorem names_of_build (built : build factory occasion config = .ok rule) :
    rule.names.names = config.tables.map (·.name) := by
  obtain ⟨made, tables, -, builtTables, distinct, rfl⟩ := build_eq_ok_iff.mp built
  have named := names_of_built builtTables
  have fresh : ∀ table ∈ tables, ({} : TableNames).contains table.name = false := by
    simp [TableNames.contains]
  rw [← named] at distinct
  dsimp only
  rw [names_foldl_put fresh distinct, named]
  rfl

theorem contains_iff_of_build (built : build factory occasion config = .ok rule) (name : String) :
    rule.names.contains name = true ↔
      ∃ table ∈ config.tables, Text.lowerAscii table.name = Text.lowerAscii name := by
  have indexed : rule.names.Indexed := by
    obtain ⟨made, tables, -, -, -, rfl⟩ := build_eq_ok_iff.mp built
    exact TableNames.indexed_foldl_put Table.name tables TableNames.indexed_empty
  rw [indexed.contains_iff, names_of_build built]
  simp

theorem table?_isSome_iff_of_build (built : build factory occasion config = .ok rule)
    (name : String) :
    (rule.table? name).isSome ↔
      ∃ table ∈ config.tables, Text.lowerAscii table.name = Text.lowerAscii name := by
  rw [← isSome_eq_of_rel (table?_rel_of_build built name), List.find?_isSome]
  simp

theorem table?_eq_some_of_build (built : build factory occasion config = .ok rule)
    {name : String} {table : Table} (found : rule.table? name = some table) :
    ∃ tableConfig ∈ config.tables, Text.lowerAscii tableConfig.name = Text.lowerAscii name ∧
      Table.build tableConfig rule.registry = .ok table ∧
      (∀ other ∈ config.tables,
        Text.lowerAscii other.name = Text.lowerAscii name → other = tableConfig) ∧
      ∀ logic, (table.column? logic).isSome ↔ ∃ column ∈ tableConfig.columns, column.name = logic := by
  have related := table?_rel_of_build built name
  rw [found] at related
  obtain ⟨tableConfig, located, succeeded⟩ := exists_of_rel_some related
  have member := List.mem_of_find?_eq_some located
  have same : Text.lowerAscii tableConfig.name = Text.lowerAscii name := by
    simpa using List.find?_some located
  have distinct : Text.DistinctFolded (config.tables.map (·.name)) := by
    obtain ⟨_, _, _, _, distinct, _⟩ := build_eq_ok_iff.mp built
    exact distinct
  refine ⟨tableConfig, member, same, succeeded, ?_, ?_⟩
  · intro other otherMember otherSame
    exact eq_of_distinctFolded distinct otherMember member (otherSame.trans same.symm)
  · intro logic
    rw [← isSome_eq_of_rel (Table.column?_rel_of_build succeeded logic), List.find?_isSome]
    simp

theorem registry_of_build (built : build factory occasion config = .ok rule) :
    ∃ made, Resolves factory occasion config.encryptors.entries made ∧
      rule.registry = registryOf config made := by
  obtain ⟨made, _, resolved, _, _, rfl⟩ := build_eq_ok_iff.mp built
  exact ⟨made, resolved, rfl⟩

theorem column_eq_ok_of_build (built : build factory occasion config = .ok rule)
    {name logic : String} {column : Column} (reached : rule.column name logic = .ok column) :
    ∃ tableConfig ∈ config.tables, Text.lowerAscii tableConfig.name = Text.lowerAscii name ∧
      ∃ columnConfig ∈ tableConfig.columns, columnConfig.name = logic ∧
        Table.Follows rule.registry columnConfig column := by
  obtain ⟨table, found, present⟩ := column_eq_ok_iff.mp reached
  obtain ⟨tableConfig, member, same, succeeded, -, -⟩ := table?_eq_some_of_build built found
  have related := Table.column?_rel_of_build succeeded logic
  rw [present] at related
  obtain ⟨columnConfig, located, follows⟩ := exists_of_rel_some related
  have named : columnConfig.name = logic := by simpa using List.find?_some located
  exact ⟨tableConfig, member, same, columnConfig, List.mem_of_find?_eq_some located, named, follows⟩

theorem cipher_madeFor_of_build (built : build factory occasion config = .ok rule)
    {name logic : String} {column : Column} (reached : rule.column name logic = .ok column) :
    ∃ tableConfig ∈ config.tables, Text.lowerAscii tableConfig.name = Text.lowerAscii name ∧
      ∃ columnConfig ∈ tableConfig.columns, columnConfig.name = logic ∧
        column.cipher.encryptor = columnConfig.cipher.encryptor ∧
        MadeFor factory occasion config (·.cipher) columnConfig.cipher.encryptor
          column.cipher.handle := by
  obtain ⟨tableConfig, member, same, columnConfig, columnMember, named, follows⟩ :=
    column_eq_ok_of_build built reached
  obtain ⟨made, resolved, filed⟩ := registry_of_build built
  obtain ⟨-, ⟨sameEncryptor, found⟩, -, -⟩ := follows
  rw [filed] at found
  exact ⟨tableConfig, member, same, columnConfig, columnMember, named, sameEncryptor,
    madeFor_of_find? (·.ciphers) (·.cipher) (·.capabilities.has Capability.cipher)
      (fun _ _ _ => rfl) rfl resolved found⟩

theorem assisted_madeFor_of_build (built : build factory occasion config = .ok rule)
    {name logic : String} {handle : Handle AssistedQuery}
    (reached : rule.assistedQuery name logic = .ok handle) :
    ∃ tableConfig ∈ config.tables, Text.lowerAscii tableConfig.name = Text.lowerAscii name ∧
      ∃ columnConfig ∈ tableConfig.columns, columnConfig.name = logic ∧
        ∃ item, columnConfig.assistedQuery = some item ∧
          MadeFor factory occasion config (·.assistedQuery) item.encryptor handle := by
  obtain ⟨table, found, offered⟩ := assistedQuery_eq_ok_iff.mp reached
  simp only [Table.findAssistedQuery?, Option.bind_eq_some_iff, Option.map_eq_some_iff] at offered
  obtain ⟨column, present, binding, bound, rfl⟩ := offered
  obtain ⟨tableConfig, member, same, columnConfig, columnMember, named, follows⟩ :=
    column_eq_ok_of_build built (column_eq_ok_iff.mpr ⟨table, found, present⟩)
  obtain ⟨-, -, assistedFollows, -⟩ := follows
  rw [bound] at assistedFollows
  obtain ⟨item, configured, -, filedItem⟩ := exists_of_rel_some assistedFollows
  obtain ⟨made, resolved, filed⟩ := registry_of_build built
  rw [filed] at filedItem
  exact ⟨tableConfig, member, same, columnConfig, columnMember, named, item, configured,
    madeFor_of_find? (·.assistedQueries) (·.assistedQuery)
      (·.capabilities.has Capability.assistedQuery) (fun _ _ _ => rfl) rfl resolved filedItem⟩

theorem like_madeFor_of_build (built : build factory occasion config = .ok rule)
    {name logic : String} {handle : Handle LikeQuery}
    (reached : rule.likeQuery name logic = .ok handle) :
    ∃ tableConfig ∈ config.tables, Text.lowerAscii tableConfig.name = Text.lowerAscii name ∧
      ∃ columnConfig ∈ tableConfig.columns, columnConfig.name = logic ∧
        ∃ item, columnConfig.likeQuery = some item ∧
          MadeFor factory occasion config (·.likeQuery) item.encryptor handle := by
  obtain ⟨table, found, offered⟩ := likeQuery_eq_ok_iff.mp reached
  simp only [Table.findLikeQuery?, Option.bind_eq_some_iff, Option.map_eq_some_iff] at offered
  obtain ⟨column, present, binding, bound, rfl⟩ := offered
  obtain ⟨tableConfig, member, same, columnConfig, columnMember, named, follows⟩ :=
    column_eq_ok_of_build built (column_eq_ok_iff.mpr ⟨table, found, present⟩)
  obtain ⟨-, -, -, likeFollows⟩ := follows
  rw [bound] at likeFollows
  obtain ⟨item, configured, -, filedItem⟩ := exists_of_rel_some likeFollows
  obtain ⟨made, resolved, filed⟩ := registry_of_build built
  rw [filed] at filedItem
  exact ⟨tableConfig, member, same, columnConfig, columnMember, named, item, configured,
    madeFor_of_find? (·.likeQueries) (·.likeQuery) (·.capabilities.has Capability.likeQuery)
      (fun _ _ _ => rfl) rfl resolved filedItem⟩

/-- What the lookups and calls of a rule follow: the configured tables and columns, and the
instances the factory made for the configured encryptors. -/
structure FollowsConfiguration (factory : Factory) (occasion : Nat) (config : RuleConfig)
    (rule : Rule) : Prop where
  found_iff_listed : ∀ name, (rule.table? name).isSome ↔ rule.names.contains name = true
  listed_iff_configured : ∀ name, rule.names.contains name = true ↔
    ∃ table ∈ config.tables, Text.lowerAscii table.name = Text.lowerAscii name
  found_built : ∀ name table, rule.table? name = some table →
    ∃ tableConfig ∈ config.tables, Text.lowerAscii tableConfig.name = Text.lowerAscii name ∧
      Table.build tableConfig rule.registry = .ok table ∧
      (∀ other ∈ config.tables,
        Text.lowerAscii other.name = Text.lowerAscii name → other = tableConfig) ∧
      ∀ logic, (table.column? logic).isSome ↔ ∃ column ∈ tableConfig.columns, column.name = logic
  names_eq : rule.names.names = config.tables.map (·.name)
  names_nodup : rule.names.names.Nodup
  enhanced_eq : rule.enhancedTables = rule.names
  cipher_reached : ∀ context column, rule.column context.table context.column = .ok column →
    (∃ tableConfig ∈ config.tables,
      Text.lowerAscii tableConfig.name = Text.lowerAscii context.table ∧
      ∃ columnConfig ∈ tableConfig.columns, columnConfig.name = context.column ∧
        column.cipher.encryptor = columnConfig.cipher.encryptor ∧
        MadeFor factory occasion config (·.cipher) columnConfig.cipher.encryptor
          column.cipher.handle) ∧
    ∀ ledger value values,
      rule.encrypt ledger context value =
        ((column.cipher.handle.algorithm.encrypt context value).mapError
            (.algorithmFailed .encrypt context.table context.column),
          ledger.recordCall column.cipher.handle.origin column.cipher.handle.algorithm.counts) ∧
      rule.decrypt ledger context value =
        ((column.cipher.handle.algorithm.decrypt context value).mapError
            (.algorithmFailed .decrypt context.table context.column),
          ledger.recordCall column.cipher.handle.origin column.cipher.handle.algorithm.counts) ∧
      rule.encryptBatch ledger context values =
        failed .batchEncrypt context
          (callEach column.cipher.handle.origin column.cipher.handle.algorithm.counts false
            (column.cipher.handle.algorithm.encrypt context)
            (if column.cipher.handle.algorithm = .batchCounting then
              ledger.recordBatch column.cipher.handle.origin values.length
            else ledger)
            values)
  assisted_reached : ∀ context handle,
    rule.assistedQuery context.table context.column = .ok handle →
    (∃ tableConfig ∈ config.tables,
      Text.lowerAscii tableConfig.name = Text.lowerAscii context.table ∧
      ∃ columnConfig ∈ tableConfig.columns, columnConfig.name = context.column ∧
        ∃ item, columnConfig.assistedQuery = some item ∧
          MadeFor factory occasion config (·.assistedQuery) item.encryptor handle) ∧
    ∀ ledger value values,
      (value.isNull = false →
        rule.assistedToken ledger context value =
          ((handle.algorithm.token context value).mapError
              (.algorithmFailed .assistedQuery context.table context.column),
            ledger.recordCall handle.origin handle.algorithm.counts)) ∧
      rule.assistedTokens ledger context values =
        failed .assistedQuery context
          (callEach handle.origin handle.algorithm.counts true (handle.algorithm.token context)
            ledger values)
  like_reached : ∀ context handle, rule.likeQuery context.table context.column = .ok handle →
    (∃ tableConfig ∈ config.tables,
      Text.lowerAscii tableConfig.name = Text.lowerAscii context.table ∧
      ∃ columnConfig ∈ tableConfig.columns, columnConfig.name = context.column ∧
        ∃ item, columnConfig.likeQuery = some item ∧
          MadeFor factory occasion config (·.likeQuery) item.encryptor handle) ∧
    ∀ ledger value values,
      (value.isNull = false →
        rule.likeToken ledger context value =
          ((handle.algorithm.token context value).mapError
              (.algorithmFailed .likeQuery context.table context.column),
            ledger.recordCall handle.origin handle.algorithm.counts)) ∧
      rule.likeTokens ledger context values =
        failed .likeQuery context
          (callEach handle.origin handle.algorithm.counts true (handle.algorithm.token context)
            ledger values)
  shared_object : ∀ {α β : Type} (pick : Instance → Option (Handle α))
    (pick' : Instance → Option (Handle β)) name handle handle',
    MadeFor factory occasion config pick name handle →
    MadeFor factory occasion config pick' name handle' →
    ∃ encryptor made, (name, encryptor) ∈ config.encryptors.entries ∧
      resolveEncryptor factory occasion (name, encryptor) = .ok made ∧
      pick made = some handle ∧ pick' made = some handle'

/-- A built rule finds tables, lists their names, and reaches algorithms as its configuration
says: a table is found exactly when a configured table has the name, letters compared
case-blind; the name list is the configured names in order, once each; and every call that gets
past its lookups goes to the object the factory made for the encryptor that the column's
configuration names in that role, told the table as the caller wrote it. -/
theorem follows_configuration_of_build (built : build factory occasion config = .ok rule) :
    FollowsConfiguration factory occasion config rule where
  found_iff_listed name := by
    rw [table?_isSome_iff_of_build built, contains_iff_of_build built]
  listed_iff_configured := contains_iff_of_build built
  found_built _ _ found := table?_eq_some_of_build built found
  names_eq := names_of_build built
  names_nodup := by
    obtain ⟨_, _, _, _, distinct, _⟩ := build_eq_ok_iff.mp built
    rw [names_of_build built]
    exact distinct.nodup
  enhanced_eq := rfl
  cipher_reached _ _ reached := ⟨cipher_madeFor_of_build built reached, fun _ _ values =>
    ⟨encrypt_of_column_eq_ok reached, decrypt_of_column_eq_ok reached,
      encryptBatch_of_column_eq_ok reached values⟩⟩
  assisted_reached _ _ reached := ⟨assisted_madeFor_of_build built reached, fun _ _ values =>
    ⟨fun notNull => assistedToken_of_assistedQuery_eq_ok reached notNull,
      assistedTokens_of_assistedQuery_eq_ok reached values⟩⟩
  like_reached _ _ reached := ⟨like_madeFor_of_build built reached, fun _ _ values =>
    ⟨fun notNull => likeToken_of_likeQuery_eq_ok reached notNull,
      likeTokens_of_likeQuery_eq_ok reached values⟩⟩
  shared_object _ _ _ _ _ made made' := made.same_instance made'

theorem standard_rule_follows_configuration :
    let factory := Session.factoryOf .registry Session.standardAlgorithms
    let config : RuleConfig :=
      { encryptors := (Dictionary.empty.insert "aes_encryptor" { type := "AES" }).insert
          "assisted_encryptor" { type := "MD5" }
        tables := [{ name := "t_user"
                     columns := [{ name := "pwd"
                                   cipher := { name := "pwd_cipher", encryptor := "aes_encryptor" }
                                   assistedQuery := some { encryptor := "assisted_encryptor" } }] }] }
    ∃ rule, build factory 0 config = .ok rule ∧ FollowsConfiguration factory 0 config rule :=
  ⟨_, rfl, follows_configuration_of_build rfl⟩

end Rule

end ColumnCrypt
