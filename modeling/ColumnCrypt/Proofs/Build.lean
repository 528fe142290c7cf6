import Mathlib.Data.List.Forall2
import Mathlib.Data.List.Nodup
import ColumnCrypt.Rule

/-!
Building a rule: when it succeeds, and which fault it reports.

A build succeeds exactly when every encryptor resolves, in ascending order of names, no two table
names fold alike, and every table passes its checks against the encryptors filed by capability;
a build that fails reports the first fault as `BuildFault` describes (`build_outcome_iff`).
-/

namespace ColumnCrypt

/-! ### Loops in `Except` that stop at the first fault -/

@[simp] theorem except_bind_eq_ok {ε α β : Type} {first : Except ε α} {next : α → Except ε β}
    {result : β} :
    first >>= next = .ok result ↔ ∃ value, first = .ok value ∧ next value = .ok result := by
  cases first with
  | error fault => simp [bind, Except.bind]
  | ok value => simp [bind, Except.bind]

@[simp] theorem except_bind_eq_error {ε α β : Type} {first : Except ε α} {next : α → Except ε β}
    {fault : ε} :
    first >>= next = .error fault ↔
      first = .error fault ∨ ∃ value, first = .ok value ∧ next value = .error fault := by
  cases first with
  | error first => simp [bind, Except.bind]
  | ok value => simp [bind, Except.bind]

@[simp] theorem except_pure_eq_ok {ε α : Type} {value result : α} :
    (pure value : Except ε α) = .ok result ↔ value = result := by
  simp [pure, Except.pure]

@[simp] theorem except_pure_ne_error {ε α : Type} {value : α} {fault : ε} :
    ¬ (pure value : Except ε α) = .error fault := by
  simp [pure, Except.pure]

@[simp] theorem except_map_eq_ok {ε α β : Type} {change : α → β} {first : Except ε α}
    {result : β} :
    change <$> first = .ok result ↔ ∃ value, first = .ok value ∧ change value = result := by
  cases first with
  | error fault => simp [Functor.map, Except.map]
  | ok value => simp [Functor.map, Except.map]

@[simp] theorem except_mapError_eq_ok {ε ε' α : Type} {answer : Except ε α} {fault : ε → ε'}
    {result : α} : answer.mapError fault = .ok result ↔ answer = .ok result := by
  cases answer with
  | error what => simp [Except.mapError]
  | ok value => simp [Except.mapError]

@[simp] theorem except_throw_ne_ok {ε α : Type} {fault : ε} {result : α} :
    ¬ (throw fault : Except ε α) = .ok result := by
  simp [throw, throwThe, MonadExceptOf.throw]

theorem foldlM_eq_error_iff {σ α ε : Type} (step : σ → α → Except ε σ) (start : σ)
    (items : List α) (fault : ε) :
    items.foldlM step start = .error fault ↔
      ∃ before item after reached, items = before ++ item :: after ∧
        before.foldlM step start = .ok reached ∧ step reached item = .error fault := by
  constructor
  · intro failed
    induction items generalizing start with
    | nil => simp at failed
    | cons item rest ih =>
      simp only [List.foldlM_cons, except_bind_eq_error] at failed
      rcases failed with refused | ⟨next, stepped, failedLater⟩
      · exact ⟨[], item, rest, start, rfl, rfl, refused⟩
      · obtain ⟨before, failing, after, reached, split, ran, refused⟩ := ih next failedLater
        refine ⟨item :: before, failing, after, reached, by rw [split]; rfl, ?_, refused⟩
        simp [stepped, ran]
  · rintro ⟨before, item, after, reached, rfl, ran, refused⟩
    simp [ran, refused]

theorem exists_forall₂_iff {α β ε : Type} (answer : α → Except ε β) (inputs : List α) :
    (∃ answers, List.Forall₂ (fun input result => answer input = .ok result) inputs answers) ↔
      ∀ input ∈ inputs, ∃ result, answer input = .ok result := by
  induction inputs with
  | nil => simp
  | cons first rest ih =>
    simp only [List.forall₂_cons_left_iff, List.mem_cons, forall_eq_or_imp]
    constructor
    · rintro ⟨_, result, answers, answered, restAnswered, rfl⟩
      exact ⟨⟨result, answered⟩, ih.mp ⟨answers, restAnswered⟩⟩
    · rintro ⟨⟨result, answered⟩, restAnswer⟩
      obtain ⟨answers, restAnswered⟩ := ih.mpr restAnswer
      exact ⟨result :: answers, result, answers, answered, restAnswered, rfl⟩

/-! ### Dictionaries list their entries by ascending key -/

namespace Dictionary

variable {α : Type}

theorem mem_before_iff {dictionary : Dictionary α} {before after : List (String × α)}
    {entry : String × α} (split : dictionary.entries = before ++ entry :: after)
    (other : String × α) :
    other ∈ before ↔ other ∈ dictionary.entries ∧ other.1 < entry.1 := by
  have ascending := dictionary.ascending
  rw [split, List.pairwise_map, List.pairwise_append, List.pairwise_cons] at ascending
  obtain ⟨-, ⟨later, -⟩, acrossSplit⟩ := ascending
  constructor
  · intro member
    exact ⟨by simp [split, member], acrossSplit other member entry (by simp)⟩
  · rintro ⟨member, smaller⟩
    rw [split] at member
    rcases List.mem_append.mp member with earlier | here | ⟨_, laterMember⟩
    · exact earlier
    · exact absurd smaller (String.lt_irrefl _)
    · exact absurd (later other laterMember) (String.lt_asymm smaller)

theorem eq_of_mem_of_mem {dictionary : Dictionary α} {key : String} {first second : α}
    (listed : (key, first) ∈ dictionary.entries) (listed' : (key, second) ∈ dictionary.entries) :
    first = second := by
  have distinct : (dictionary.entries.map (·.1)).Nodup := dictionary.ascending.imp String.ne_of_lt
  have same := List.inj_on_of_nodup_map distinct listed listed' rfl
  exact (Prod.mk.inj same).2

end Dictionary

/-! ### Resolving and filing the encryptors -/

/-- No two of the names fold to one spelling. -/
def Text.DistinctFolded (names : List String) : Prop :=
  names.Pairwise (fun name other => Text.lowerAscii name ≠ Text.lowerAscii other)

theorem Text.DistinctFolded.nodup {names : List String} (distinct : Text.DistinctFolded names) :
    names.Nodup :=
  distinct.imp fun different same => different (congrArg Text.lowerAscii same)

def CapabilityRegistry.fileAll (registry : CapabilityRegistry) (names : List String)
    (made : List Instance) : CapabilityRegistry :=
  (names.zip made).foldl (fun registry filed => registry.classify filed.1 filed.2) registry

@[simp] theorem CapabilityRegistry.fileAll_cons (registry : CapabilityRegistry) (name : String)
    (names : List String) (first : Instance) (made : List Instance) :
    registry.fileAll (name :: names) (first :: made) =
      (registry.classify name first).fileAll names made := rfl

namespace Rule

def resolveEncryptor (factory : Factory) (occasion : Nat) (entry : String × EncryptorConfig) :
    Except Fault Instance :=
  factory.resolve (.created occasion entry.1) entry.2.type entry.2.properties

/-- The factory resolves the listed encryptors, in order, to the listed instances. -/
def Resolves (factory : Factory) (occasion : Nat) (entries : List (String × EncryptorConfig))
    (made : List Instance) : Prop :=
  List.Forall₂ (fun entry resolved => resolveEncryptor factory occasion entry = .ok resolved)
    entries made

def fileEncryptor (factory : Factory) (occasion : Nat) (registry : CapabilityRegistry)
    (entry : String × EncryptorConfig) : Except Fault CapabilityRegistry :=
  match resolveEncryptor factory occasion entry with
  | .error fault => .error (.ofEncryptor entry.1 fault)
  | .ok made => .ok (registry.classify entry.1 made)

variable {factory : Factory} {occasion : Nat}

theorem fileEncryptors_eq_foldlM (registry : CapabilityRegistry)
    (entries : List (String × EncryptorConfig)) :
    fileEncryptors factory occasion registry entries =
      entries.foldlM (fileEncryptor factory occasion) registry := by
  induction entries generalizing registry with
  | nil => rfl
  | cons entry rest ih =>
    simp only [fileEncryptors, List.foldlM_cons, fileEncryptor, resolveEncryptor]
    cases factory.resolve (.created occasion entry.1) entry.2.type entry.2.properties with
    | error fault => rfl
    | ok made => exact ih _

theorem fileEncryptor_eq_ok_iff {registry filed : CapabilityRegistry}
    {entry : String × EncryptorConfig} :
    fileEncryptor factory occasion registry entry = .ok filed ↔
      ∃ made, resolveEncryptor factory occasion entry = .ok made ∧
        filed = registry.classify entry.1 made := by
  unfold fileEncryptor
  cases resolveEncryptor factory occasion entry with
  | error fault => simp
  | ok made => simp [eq_comm]

theorem fileEncryptor_eq_error_iff {registry : CapabilityRegistry}
    {entry : String × EncryptorConfig} {fault : Fault} :
    fileEncryptor factory occasion registry entry = .error fault ↔
      ∃ cause, resolveEncryptor factory occasion entry = .error cause ∧
        fault = .ofEncryptor entry.1 cause := by
  unfold fileEncryptor
  cases resolveEncryptor factory occasion entry with
  | error cause => simp [eq_comm]
  | ok made => simp

theorem foldlM_fileEncryptor_eq_ok_iff {registry result : CapabilityRegistry}
    {entries : List (String × EncryptorConfig)} :
    entries.foldlM (fileEncryptor factory occasion) registry = .ok result ↔
      ∃ made, Resolves factory occasion entries made ∧
        result = registry.fileAll (entries.map (·.1)) made := by
  induction entries generalizing registry with
  | nil =>
    simp only [List.foldlM_nil, except_pure_eq_ok, Resolves, List.forall₂_nil_left_iff,
      exists_eq_left, List.map_nil, CapabilityRegistry.fileAll, List.zip_nil_left, List.foldl_nil]
    exact eq_comm
  | cons entry rest ih =>
    simp only [List.foldlM_cons, except_bind_eq_ok, ih, Resolves, List.forall₂_cons_left_iff]
    constructor
    · rintro ⟨filed, stepped, made, resolved, rfl⟩
      obtain ⟨first, resolvedFirst, rfl⟩ := fileEncryptor_eq_ok_iff.mp stepped
      exact ⟨first :: made, ⟨first, made, resolvedFirst, resolved, rfl⟩, rfl⟩
    · rintro ⟨_, ⟨first, made, resolvedFirst, resolved, rfl⟩, rfl⟩
      exact ⟨registry.classify entry.1 first, fileEncryptor_eq_ok_iff.mpr ⟨first, resolvedFirst, rfl⟩,
        made, resolved, rfl⟩

theorem fileEncryptors_eq_error_iff {registry : CapabilityRegistry}
    {entries : List (String × EncryptorConfig)} {fault : Fault} :
    fileEncryptors factory occasion registry entries = .error fault ↔
      ∃ before name encryptor after cause, entries = before ++ (name, encryptor) :: after ∧
        (∃ made, Resolves factory occasion before made) ∧
        resolveEncryptor factory occasion (name, encryptor) = .error cause ∧
        fault = .ofEncryptor name cause := by
  rw [fileEncryptors_eq_foldlM, foldlM_eq_error_iff]
  constructor
  · rintro ⟨before, ⟨name, encryptor⟩, after, reached, split, ran, refused⟩
    obtain ⟨made, resolved, -⟩ := foldlM_fileEncryptor_eq_ok_iff.mp ran
    obtain ⟨cause, resolvedNot, rfl⟩ := fileEncryptor_eq_error_iff.mp refused
    exact ⟨before, name, encryptor, after, cause, split, ⟨made, resolved⟩, resolvedNot, rfl⟩
  · rintro ⟨before, name, encryptor, after, cause, split, ⟨made, resolved⟩, resolvedNot, rfl⟩
    exact ⟨before, (name, encryptor), after, _, split,
      foldlM_fileEncryptor_eq_ok_iff.mpr ⟨made, resolved, rfl⟩,
      fileEncryptor_eq_error_iff.mpr ⟨cause, resolvedNot, rfl⟩⟩

/-! ### Building the tables -/

theorem name_of_build {config : TableConfig} {registry : CapabilityRegistry} {table : Table}
    (built : Table.build config registry = .ok table) : table.name = config.name := by
  simp only [Table.build] at built
  split at built
  · simp at built
  · obtain ⟨progress, -, named⟩ := except_bind_eq_ok.mp built
    rw [← except_pure_eq_ok.mp named]

def addTable (registry : CapabilityRegistry) (built : List Table) (config : TableConfig) :
    Except Fault (List Table) :=
  if built.any (Text.lowerAscii ·.name = Text.lowerAscii config.name) then
    .error (.duplicateTable config.name)
  else
    match Table.build config registry with
    | .error fault => .error fault
    | .ok table => .ok (built ++ [table])

variable {registry : CapabilityRegistry}

theorem buildTables_eq_foldlM (built : List Table) (configs : List TableConfig) :
    buildTables registry built configs = configs.foldlM (addTable registry) built := by
  induction configs generalizing built with
  | nil => rfl
  | cons config rest ih =>
    simp only [buildTables, List.foldlM_cons, addTable]
    split
    · rfl
    · cases Table.build config registry with
      | error fault => rfl
      | ok table => exact ih _

theorem addTable_eq_ok_iff {built next : List Table} {config : TableConfig} :
    addTable registry built config = .ok next ↔
      (∀ table ∈ built, Text.lowerAscii table.name ≠ Text.lowerAscii config.name) ∧
        ∃ table, Table.build config registry = .ok table ∧ next = built ++ [table] := by
  unfold addTable
  split
  · rename_i clash
    obtain ⟨table, member, same⟩ := List.any_eq_true.mp clash
    simp only [reduceCtorEq, false_iff, not_and]
    intro fresh
    exact absurd (of_decide_eq_true same) (fresh table member)
  · rename_i noClash
    have fresh : ∀ table ∈ built, Text.lowerAscii table.name ≠ Text.lowerAscii config.name := by
      simpa using noClash
    cases Table.build config registry with
    | error fault => simp
    | ok table =>
      simp only [Except.ok.injEq]
      constructor
      · rintro rfl
        exact ⟨fresh, table, rfl, rfl⟩
      · rintro ⟨-, _, rfl, rfl⟩
        rfl

theorem addTable_eq_error_iff {built : List Table} {config : TableConfig} {fault : Fault} :
    addTable registry built config = .error fault ↔
      (∃ table ∈ built, Text.lowerAscii table.name = Text.lowerAscii config.name) ∧
          fault = .duplicateTable config.name ∨
        (∀ table ∈ built, Text.lowerAscii table.name ≠ Text.lowerAscii config.name) ∧
          Table.build config registry = .error fault := by
  unfold addTable
  split
  · rename_i clash
    obtain ⟨table, member, same⟩ := List.any_eq_true.mp clash
    have clashing : ∃ table ∈ built, Text.lowerAscii table.name = Text.lowerAscii config.name :=
      ⟨table, member, of_decide_eq_true same⟩
    simp only [Except.error.injEq]
    constructor
    · rintro rfl
      exact Or.inl ⟨clashing, rfl⟩
    · rintro (⟨-, rfl⟩ | ⟨fresh, -⟩)
      · rfl
      · exact absurd (of_decide_eq_true same) (fresh table member)
  · rename_i noClash
    have fresh : ∀ table ∈ built, Text.lowerAscii table.name ≠ Text.lowerAscii config.name := by
      simpa using noClash
    have noClashing : ¬ ∃ table ∈ built, Text.lowerAscii table.name = Text.lowerAscii config.name :=
      fun ⟨table, member, same⟩ => fresh table member same
    cases Table.build config registry with
    | error cause =>
      simp only [Except.error.injEq]
      constructor
      · intro same
        exact Or.inr ⟨fresh, same⟩
      · rintro (⟨clashing, -⟩ | ⟨-, same⟩)
        · exact absurd clashing noClashing
        · exact same
    | ok table => simp [noClashing]

theorem names_of_built {configs : List TableConfig} {tables : List Table}
    (built : List.Forall₂ (fun config table => Table.build config registry = .ok table)
      configs tables) :
    tables.map (·.name) = configs.map (·.name) := by
  induction built with
  | nil => rfl
  | cons first _ ih => simp [name_of_build first, ih]

theorem foldlM_addTable_eq_ok_iff {built result : List Table} {configs : List TableConfig} :
    configs.foldlM (addTable registry) built = .ok result ↔
      ∃ tables, List.Forall₂ (fun config table => Table.build config registry = .ok table)
          configs tables ∧
        (∀ table ∈ built, ∀ config ∈ configs,
          Text.lowerAscii table.name ≠ Text.lowerAscii config.name) ∧
        Text.DistinctFolded (configs.map (·.name)) ∧ result = built ++ tables := by
  induction configs generalizing built with
  | nil =>
    simp [Text.DistinctFolded]
    exact eq_comm
  | cons config rest ih =>
    simp only [List.foldlM_cons, except_bind_eq_ok, addTable_eq_ok_iff, ih]
    constructor
    · rintro ⟨_, ⟨fresh, table, builtFirst, rfl⟩, tables, builtRest, freshRest, distinctRest, rfl⟩
      have named := name_of_build builtFirst
      refine ⟨table :: tables, .cons builtFirst builtRest, ?_, ?_, by simp⟩
      · intro old member other otherMember
        rcases List.mem_cons.mp otherMember with rfl | later
        · exact fresh old member
        · exact freshRest old (List.mem_append_left _ member) other later
      · refine List.pairwise_cons.mpr ⟨?_, distinctRest⟩
        intro otherName otherMember
        obtain ⟨other, later, rfl⟩ := List.mem_map.mp otherMember
        show Text.lowerAscii config.name ≠ Text.lowerAscii other.name
        rw [← named]
        exact freshRest table (by simp) other later
    · rintro ⟨_, builtAll, fresh, distinct, rfl⟩
      cases builtAll with
      | cons builtFirst builtRest =>
        rename_i table tables
        have named := name_of_build builtFirst
        simp only [List.map_cons, Text.DistinctFolded, List.pairwise_cons] at distinct
        refine ⟨built ++ [table], ⟨fun old member => fresh old member config (by simp), table,
          builtFirst, rfl⟩, tables, builtRest, ?_, distinct.2, by simp⟩
        intro old member other later
        rcases List.mem_append.mp member with earlier | newest
        · exact fresh old earlier other (List.mem_cons_of_mem _ later)
        · rw [List.mem_singleton.mp newest, named]
          exact distinct.1 other.name (List.mem_map_of_mem later)

theorem forall_built_name_iff {configs : List TableConfig} {tables : List Table}
    (built : List.Forall₂ (fun config table => Table.build config registry = .ok table)
      configs tables) (holds : String → Prop) :
    (∀ table ∈ tables, holds table.name) ↔ ∀ config ∈ configs, holds config.name := by
  have named := congrArg (fun names => ∀ name ∈ names, holds name) (names_of_built built)
  simpa only [List.forall_mem_map, eq_iff_iff] using named

/-- The tables before a failing one pass: each builds, and no two of their names fold alike. -/
def TablesPass (registry : CapabilityRegistry) (configs : List TableConfig) : Prop :=
  Text.DistinctFolded (configs.map (·.name)) ∧
    ∀ config ∈ configs, ∃ table, Table.build config registry = .ok table

theorem buildTables_eq_error_iff {configs : List TableConfig} {fault : Fault} :
    buildTables registry [] configs = .error fault ↔
      ∃ before config after, configs = before ++ config :: after ∧ TablesPass registry before ∧
        ((∃ earlier ∈ before, Text.lowerAscii earlier.name = Text.lowerAscii config.name) ∧
            fault = .duplicateTable config.name ∨
          (∀ earlier ∈ before, Text.lowerAscii earlier.name ≠ Text.lowerAscii config.name) ∧
            Table.build config registry = .error fault) := by
  rw [buildTables_eq_foldlM, foldlM_eq_error_iff]
  constructor
  · rintro ⟨before, config, after, reached, split, ran, refused⟩
    obtain ⟨tables, built, -, distinct, rfl⟩ := foldlM_addTable_eq_ok_iff.mp ran
    have fresh := forall_built_name_iff built
      (fun name => Text.lowerAscii name ≠ Text.lowerAscii config.name)
    refine ⟨before, config, after, split,
      ⟨distinct, (exists_forall₂_iff (Table.build · registry) before).mp ⟨_, built⟩⟩, ?_⟩
    rw [addTable_eq_error_iff, fresh] at refused
    rcases refused with ⟨⟨table, member, same⟩, rfl⟩ | ⟨unclashed, failed⟩
    · refine Or.inl ⟨?_, rfl⟩
      by_contra unseen
      exact (fresh.mpr fun earlier member same => unseen ⟨earlier, member, same⟩) table member same
    · exact Or.inr ⟨unclashed, failed⟩
  · rintro ⟨before, config, after, split, ⟨distinct, passing⟩, outcome⟩
    obtain ⟨tables, built⟩ := (exists_forall₂_iff (Table.build · registry) before).mpr passing
    have fresh := forall_built_name_iff built
      (fun name => Text.lowerAscii name ≠ Text.lowerAscii config.name)
    refine ⟨before, config, after, tables, split,
      foldlM_addTable_eq_ok_iff.mpr ⟨tables, built, by simp, distinct, rfl⟩, ?_⟩
    rw [addTable_eq_error_iff]
    rcases outcome with ⟨⟨earlier, member, same⟩, rfl⟩ | ⟨unclashed, failed⟩
    · refine Or.inl ⟨?_, rfl⟩
      by_contra unseen
      exact fresh.mp (fun table member same => unseen ⟨table, member, same⟩) earlier member same
    · exact Or.inr ⟨fresh.mpr unclashed, failed⟩

/-! ### Building a rule -/

def registryOf (config : RuleConfig) (made : List Instance) : CapabilityRegistry :=
  CapabilityRegistry.empty.fileAll config.encryptors.keys made

/-- The fault that building a rule reports: the first fault met when the encryptors are resolved
in ascending order of their names and the tables are then checked in declaration order. -/
inductive BuildFault (factory : Factory) (occasion : Nat) (config : RuleConfig) : Fault → Prop
  | encryptor {name : String} {encryptor : EncryptorConfig} {cause : Fault}
      (configured : (name, encryptor) ∈ config.encryptors.entries)
      (earlier : ∀ other ∈ config.encryptors.entries, other.1 < name →
        ∃ made, resolveEncryptor factory occasion other = .ok made)
      (refused : resolveEncryptor factory occasion (name, encryptor) = .error cause) :
      BuildFault factory occasion config (.ofEncryptor name cause)
  | duplicateTable {made : List Instance} {before after : List TableConfig}
      {table earlier : TableConfig}
      (resolved : Resolves factory occasion config.encryptors.entries made)
      (split : config.tables = before ++ table :: after)
      (passed : TablesPass (registryOf config made) before)
      (listed : earlier ∈ before) (same : Text.lowerAscii earlier.name = Text.lowerAscii table.name) :
      BuildFault factory occasion config (.duplicateTable table.name)
  | table {made : List Instance} {before after : List TableConfig} {table : TableConfig}
      {fault : Fault}
      (resolved : Resolves factory occasion config.encryptors.entries made)
      (split : config.tables = before ++ table :: after)
      (passed : TablesPass (registryOf config made) before)
      (fresh : ∀ earlier ∈ before, Text.lowerAscii earlier.name ≠ Text.lowerAscii table.name)
      (failed : Table.build table (registryOf config made) = .error fault) :
      BuildFault factory occasion config fault

theorem build_eq_ok_iff {config : RuleConfig} {rule : Rule} :
    build factory occasion config = .ok rule ↔
      ∃ made tables, Resolves factory occasion config.encryptors.entries made ∧
        List.Forall₂ (fun table built => Table.build table (registryOf config made) = .ok built)
          config.tables tables ∧
        Text.DistinctFolded (config.tables.map (·.name)) ∧
        rule = { configuration := config, registry := registryOf config made, tables,
                 names := tables.foldl (fun names table => names.put table.name) {} } := by
  simp only [build, except_bind_eq_ok, fileEncryptors_eq_foldlM, foldlM_fileEncryptor_eq_ok_iff,
    buildTables_eq_foldlM, foldlM_addTable_eq_ok_iff, except_pure_eq_ok]
  constructor
  · rintro ⟨_, ⟨made, resolved, rfl⟩, tables, ⟨_, built, -, distinct, rfl⟩, rfl⟩
    exact ⟨made, tables, resolved, built, distinct, rfl⟩
  · rintro ⟨made, tables, resolved, built, distinct, rfl⟩
    exact ⟨_, ⟨made, resolved, rfl⟩, tables, ⟨tables, built, by simp, distinct, rfl⟩, rfl⟩

theorem build_eq_error_iff {config : RuleConfig} {fault : Fault} :
    build factory occasion config = .error fault ↔ BuildFault factory occasion config fault := by
  simp only [build, except_bind_eq_error, except_pure_ne_error, and_false, exists_false,
    or_false]
  constructor
  · rintro (filing | ⟨registry, filed, building⟩)
    · obtain ⟨before, name, encryptor, after, cause, split, ⟨made, resolved⟩, refused, rfl⟩ :=
        fileEncryptors_eq_error_iff.mp filing
      refine .encryptor (by simp [split]) ?_ refused
      intro other member smaller
      have before_ : other ∈ before := (Dictionary.mem_before_iff split other).mpr ⟨member, smaller⟩
      exact (exists_forall₂_iff (resolveEncryptor factory occasion) before).mp ⟨made, resolved⟩
        other before_
    · rw [fileEncryptors_eq_foldlM, foldlM_fileEncryptor_eq_ok_iff] at filed
      obtain ⟨made, resolved, rfl⟩ := filed
      obtain ⟨before, table, after, split, passed, outcome⟩ := buildTables_eq_error_iff.mp building
      rcases outcome with ⟨⟨earlier, listed, same⟩, rfl⟩ | ⟨fresh, failed⟩
      · exact .duplicateTable resolved split passed listed same
      · exact .table resolved split passed fresh failed
  · intro reported
    cases reported with
    | encryptor configured earlier refused =>
      rename_i name encryptor cause
      obtain ⟨before, after, split⟩ := List.append_of_mem configured
      have resolvable : ∀ other ∈ before, ∃ made, resolveEncryptor factory occasion other = .ok made :=
        fun other member =>
          have listed := (Dictionary.mem_before_iff split other).mp member
          earlier other listed.1 listed.2
      obtain ⟨made, resolved⟩ :=
        (exists_forall₂_iff (resolveEncryptor factory occasion) before).mpr resolvable
      exact Or.inl (fileEncryptors_eq_error_iff.mpr
        ⟨before, name, encryptor, after, cause, split, ⟨made, resolved⟩, refused, rfl⟩)
    | duplicateTable resolved split passed listed same =>
      refine Or.inr ⟨_, ?_, buildTables_eq_error_iff.mpr
        ⟨_, _, _, split, passed, Or.inl ⟨⟨_, listed, same⟩, rfl⟩⟩⟩
      rw [fileEncryptors_eq_foldlM, foldlM_fileEncryptor_eq_ok_iff]
      exact ⟨_, resolved, rfl⟩
    | table resolved split passed fresh failed =>
      refine Or.inr ⟨_, ?_, buildTables_eq_error_iff.mpr
        ⟨_, _, _, split, passed, Or.inr ⟨fresh, failed⟩⟩⟩
      rw [fileEncryptors_eq_foldlM, foldlM_fileEncryptor_eq_ok_iff]
      exact ⟨_, resolved, rfl⟩

/-- A build succeeds exactly when every configured encryptor resolves, no two table names fold
alike, and every table passes its checks against the resolved encryptors filed by capability;
a build that fails reports the first fault, in the order `BuildFault` gives. -/
theorem build_outcome_iff (factory : Factory) (occasion : Nat) (config : RuleConfig) :
    ((∃ rule, build factory occasion config = .ok rule) ↔
      ∃ made, Resolves factory occasion config.encryptors.entries made ∧
        Text.DistinctFolded (config.tables.map (·.name)) ∧
        ∀ table ∈ config.tables, ∃ built, Table.build table (registryOf config made) = .ok built) ∧
    ∀ fault, build factory occasion config = .error fault ↔
      BuildFault factory occasion config fault := by
  refine ⟨?_, fun _ => build_eq_error_iff⟩
  constructor
  · rintro ⟨rule, built⟩
    obtain ⟨made, tables, resolved, builtTables, distinct, -⟩ := build_eq_ok_iff.mp built
    have passing := (exists_forall₂_iff (Table.build · (registryOf config made)) config.tables).mp
      ⟨tables, builtTables⟩
    exact ⟨made, resolved, distinct, passing⟩
  · rintro ⟨made, resolved, distinct, passing⟩
    obtain ⟨tables, builtTables⟩ :=
      (exists_forall₂_iff (Table.build · (registryOf config made)) config.tables).mpr passing
    exact ⟨_, build_eq_ok_iff.mpr ⟨made, tables, resolved, builtTables, distinct, rfl⟩⟩

end Rule

end ColumnCrypt
