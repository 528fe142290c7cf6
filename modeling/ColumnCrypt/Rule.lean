import ColumnCrypt.Table

/-!
Encryption rules: building them, and calling algorithms through them.

A rule resolves its encryptors through a factory in ascending order of names, files them by
capability, then builds its tables in declaration order, refusing a table name that folds like an
earlier one. Its table names are kept once per case-blind spelling, in the order of their first
put. A call looks up the table (case-blind) and the column (exactly), then calls the column's
algorithm, counting the call in the ledger first; a lookup that fails counts nothing.
-/

namespace ColumnCrypt

/-- Table names in order of first put, and the position of each folded spelling. -/
structure TableNames where
  names : List String := []
  indexes : Dictionary Nat := Dictionary.empty
deriving DecidableEq, Repr, Inhabited

namespace TableNames

def put (table : TableNames) (name : String) : TableNames :=
  match table.indexes.find? (Text.lowerAscii name) with
  | some position => { table with names := table.names.set position name }
  | none =>
    { names := table.names ++ [name]
      indexes := table.indexes.insert (Text.lowerAscii name) table.names.length }

def contains (table : TableNames) (name : String) : Bool :=
  table.indexes.contains (Text.lowerAscii name)

def size (table : TableNames) : Nat :=
  table.names.length

variable {table : TableNames} {name : String}

theorem put_of_find?_eq_some {position : Nat}
    (indexed : table.indexes.find? (Text.lowerAscii name) = some position) :
    table.put name = { table with names := table.names.set position name } := by
  simp [put, indexed]

theorem put_of_find?_eq_none (unindexed : table.indexes.find? (Text.lowerAscii name) = none) :
    table.put name =
      { names := table.names ++ [name]
        indexes := table.indexes.insert (Text.lowerAscii name) table.names.length } := by
  simp [put, unindexed]

theorem contains_of_find?_eq_some {position : Nat}
    (indexed : table.indexes.find? (Text.lowerAscii name) = some position) :
    table.contains name = true := by
  simp [contains, Dictionary.contains_eq_isSome_find?, indexed]

theorem contains_eq_false_iff : table.contains name = false ↔
    table.indexes.find? (Text.lowerAscii name) = none := by
  simp [contains, Dictionary.contains_eq_isSome_find?]

theorem contains_put (table : TableNames) (name other : String) :
    (table.put name).contains other = true ↔
      Text.lowerAscii name = Text.lowerAscii other ∨ table.contains other = true := by
  cases indexed : table.indexes.find? (Text.lowerAscii name) with
  | some position =>
    have known := contains_of_find?_eq_some indexed
    rw [put_of_find?_eq_some indexed]
    constructor
    · exact Or.inr
    · rintro (same | present)
      · simpa [contains, same] using known
      · exact present
  | none =>
    rw [put_of_find?_eq_none indexed]
    simp only [contains, Dictionary.contains_insert]
    exact or_congr_left eq_comm

theorem names_put_of_contains_eq_false (table : TableNames) (name : String)
    (fresh : table.contains name = false) : (table.put name).names = table.names ++ [name] := by
  rw [put_of_find?_eq_none (contains_eq_false_iff.mp fresh)]

theorem size_put (table : TableNames) (name : String) :
    (table.put name).size = if table.contains name then table.size else table.size + 1 := by
  cases indexed : table.indexes.find? (Text.lowerAscii name) with
  | some position =>
    rw [put_of_find?_eq_some indexed, if_pos (contains_of_find?_eq_some indexed)]
    simp [size]
  | none =>
    rw [put_of_find?_eq_none indexed, contains_eq_false_iff.mpr indexed]
    simp [size]

end TableNames

/-! ### Rules -/

/-- A built rule. -/
structure Rule where
  configuration : RuleConfig
  registry : CapabilityRegistry
  tables : List Table
  names : TableNames

namespace Rule

def fileEncryptors (factory : Factory) (occasion : Nat) :
    CapabilityRegistry → List (String × EncryptorConfig) → Except Fault CapabilityRegistry
  | registry, [] => .ok registry
  | registry, (name, encryptor) :: rest =>
    match factory.resolve (.created occasion name) encryptor.type encryptor.properties with
    | .error fault => .error (.ofEncryptor name fault)
    | .ok made => fileEncryptors factory occasion (registry.classify name made) rest

def buildTables (registry : CapabilityRegistry) :
    List Table → List TableConfig → Except Fault (List Table)
  | built, [] => .ok built
  | built, config :: rest =>
    if built.any (Text.lowerAscii ·.name = Text.lowerAscii config.name) then
      .error (.duplicateTable config.name)
    else
      match Table.build config registry with
      | .error fault => .error fault
      | .ok table => buildTables registry (built ++ [table]) rest

/-- Builds a rule from a configuration through a factory, on an occasion that names the objects
made for it. -/
def build (factory : Factory) (occasion : Nat) (config : RuleConfig) : Except Fault Rule := do
  let registry ← fileEncryptors factory occasion CapabilityRegistry.empty config.encryptors.entries
  let tables ← buildTables registry [] config.tables
  pure { configuration := config, registry, tables,
         names := tables.foldl (fun names table => names.put table.name) {} }

def table? (rule : Rule) (name : String) : Option Table :=
  rule.tables.find? (Text.lowerAscii ·.name = Text.lowerAscii name)

def table (rule : Rule) (name : String) : Except Fault Table :=
  match rule.table? name with
  | some table => .ok table
  | none => .error (.tableNotFound name)

def column (rule : Rule) (table column : String) : Except Fault Column := do
  (← rule.table table).column column

def kindName : String := "EncryptRule"

def actualTables (_ : Rule) : TableNames := {}

def distributedTables (_ : Rule) : TableNames := {}

def enhancedTables (rule : Rule) : TableNames := rule.names

end Rule

/-! ### Calls -/

/-- An answer of a call through a rule, with the ledger after it. -/
abbrev Dispatched (α : Type) := Except Fault α × Ledger

namespace Rule

def callOnce (origin : Origin) (counts : Bool) (call : Value → Except String Value)
    (ledger : Ledger) (value : Value) : Except String Value × Ledger :=
  (call value, ledger.recordCall origin counts)

/-- Calls an algorithm object on each element in order, counting each call first, and stops at
the first failure. With `keepNull`, a NULL element stays NULL and is not passed on. -/
def callEach (origin : Origin) (counts keepNull : Bool) (call : Value → Except String Value) :
    Ledger → List Value → Except String (List Value) × Ledger
  | ledger, [] => (.ok [], ledger)
  | ledger, value :: rest =>
    if keepNull && value.isNull then
      let (answer, ledger) := callEach origin counts keepNull call ledger rest
      (answer.map (Value.null :: ·), ledger)
    else
      let ledger := ledger.recordCall origin counts
      match call value with
      | .error what => (.error what, ledger)
      | .ok result =>
        let (answer, ledger) := callEach origin counts keepNull call ledger rest
        (answer.map (result :: ·), ledger)

def failed {α : Type} (operation : Operation) (context : CallContext) :
    Except String α × Ledger → Dispatched α
  | (.ok result, ledger) => (.ok result, ledger)
  | (.error what, ledger) =>
    (.error (.algorithmFailed operation context.table context.column what), ledger)

def encrypt (rule : Rule) (ledger : Ledger) (context : CallContext) (value : Value) :
    Dispatched Value :=
  match rule.column context.table context.column with
  | .error fault => (.error fault, ledger)
  | .ok column =>
    let handle := column.cipher.handle
    failed .encrypt context
      (callOnce handle.origin handle.algorithm.counts (handle.algorithm.encrypt context) ledger value)

/-- Encrypts a batch of values for a column: a batch-counting cipher counts the batch first, and
the elements are then encrypted one after another, NULL included. -/
def encryptBatch (rule : Rule) (ledger : Ledger) (context : CallContext) (values : List Value) :
    Dispatched (List Value) :=
  match rule.column context.table context.column with
  | .error fault => (.error fault, ledger)
  | .ok column =>
    let handle := column.cipher.handle
    let ledger :=
      if handle.algorithm = .batchCounting then ledger.recordBatch handle.origin values.length
      else ledger
    failed .batchEncrypt context
      (callEach handle.origin handle.algorithm.counts false (handle.algorithm.encrypt context)
        ledger values)

def decrypt (rule : Rule) (ledger : Ledger) (context : CallContext) (value : Value) :
    Dispatched Value :=
  match rule.column context.table context.column with
  | .error fault => (.error fault, ledger)
  | .ok column =>
    let handle := column.cipher.handle
    failed .decrypt context
      (callOnce handle.origin handle.algorithm.counts (handle.algorithm.decrypt context) ledger value)

def assistedQuery (rule : Rule) (table column : String) : Except Fault (Handle AssistedQuery) := do
  match (← rule.table table).findAssistedQuery? column with
  | some handle => pure handle
  | none => throw (.missingEncryptor .assistedQuery table column)

def likeQuery (rule : Rule) (table column : String) : Except Fault (Handle LikeQuery) := do
  match (← rule.table table).findLikeQuery? column with
  | some handle => pure handle
  | none => throw (.missingEncryptor .likeQuery table column)

def assistedToken (rule : Rule) (ledger : Ledger) (context : CallContext) (value : Value) :
    Dispatched Value :=
  if value.isNull then (.ok .null, ledger) else
  match rule.assistedQuery context.table context.column with
  | .error fault => (.error fault, ledger)
  | .ok handle =>
    failed .assistedQuery context
      (callOnce handle.origin handle.algorithm.counts (handle.algorithm.token context) ledger value)

/-- The exact-match search tokens of a batch of values. The algorithm is looked up first, even for
a batch that is empty or all NULL; NULLs are then kept and the other elements passed on in order,
as `likeTokens` does for pattern tokens. -/
def assistedTokens (rule : Rule) (ledger : Ledger) (context : CallContext) (values : List Value) :
    Dispatched (List Value) :=
  match rule.assistedQuery context.table context.column with
  | .error fault => (.error fault, ledger)
  | .ok handle =>
    failed .assistedQuery context
      (callEach handle.origin handle.algorithm.counts true (handle.algorithm.token context)
        ledger values)

def likeToken (rule : Rule) (ledger : Ledger) (context : CallContext) (value : Value) :
    Dispatched Value :=
  if value.isNull then (.ok .null, ledger) else
  match rule.likeQuery context.table context.column with
  | .error fault => (.error fault, ledger)
  | .ok handle =>
    failed .likeQuery context
      (callOnce handle.origin handle.algorithm.counts (handle.algorithm.token context) ledger value)

def likeTokens (rule : Rule) (ledger : Ledger) (context : CallContext) (values : List Value) :
    Dispatched (List Value) :=
  match rule.likeQuery context.table context.column with
  | .error fault => (.error fault, ledger)
  | .ok handle =>
    failed .likeQuery context
      (callEach handle.origin handle.algorithm.counts true (handle.algorithm.token context)
        ledger values)

section Lookup

variable {rule : Rule} {context : CallContext} {fault : Fault}

theorem encrypt_of_column_eq_error (missing : rule.column context.table context.column = .error fault)
    (ledger : Ledger) (value : Value) : rule.encrypt ledger context value = (.error fault, ledger) := by
  simp [encrypt, missing]

theorem encryptBatch_of_column_eq_error
    (missing : rule.column context.table context.column = .error fault)
    (ledger : Ledger) (values : List Value) :
    rule.encryptBatch ledger context values = (.error fault, ledger) := by
  simp [encryptBatch, missing]

theorem decrypt_of_column_eq_error (missing : rule.column context.table context.column = .error fault)
    (ledger : Ledger) (value : Value) : rule.decrypt ledger context value = (.error fault, ledger) := by
  simp [decrypt, missing]

@[simp] theorem assistedToken_null (ledger : Ledger) :
    rule.assistedToken ledger context .null = (.ok .null, ledger) := by
  simp [assistedToken, Value.isNull]

@[simp] theorem likeToken_null (ledger : Ledger) :
    rule.likeToken ledger context .null = (.ok .null, ledger) := by
  simp [likeToken, Value.isNull]

theorem assistedToken_of_assistedQuery_eq_error
    (missing : rule.assistedQuery context.table context.column = .error fault)
    (ledger : Ledger) (value : Value) (present : value.isNull = false) :
    rule.assistedToken ledger context value = (.error fault, ledger) := by
  simp [assistedToken, missing, present]

theorem assistedTokens_of_assistedQuery_eq_error
    (missing : rule.assistedQuery context.table context.column = .error fault)
    (ledger : Ledger) (values : List Value) :
    rule.assistedTokens ledger context values = (.error fault, ledger) := by
  simp [assistedTokens, missing]

theorem likeToken_of_likeQuery_eq_error
    (missing : rule.likeQuery context.table context.column = .error fault)
    (ledger : Ledger) (value : Value) (present : value.isNull = false) :
    rule.likeToken ledger context value = (.error fault, ledger) := by
  simp [likeToken, missing, present]

theorem likeTokens_of_likeQuery_eq_error
    (missing : rule.likeQuery context.table context.column = .error fault)
    (ledger : Ledger) (values : List Value) :
    rule.likeTokens ledger context values = (.error fault, ledger) := by
  simp [likeTokens, missing]

end Lookup

end Rule

/-! ### Usage -/

structure Usage where
  encryptor : String
  counters : Counters
  countsBatches : Bool
deriving DecidableEq, Repr

namespace Rule

def objectOf? (rule : Rule) (name : String) : Option (Origin × Bool × Bool) :=
  match rule.registry.findCipher? name with
  | some handle =>
    some (handle.origin, handle.algorithm.counts, handle.algorithm = .batchCounting)
  | none =>
    match rule.registry.findAssistedQuery? name with
    | some handle => some (handle.origin, handle.algorithm.counts, false)
    | none =>
      match rule.registry.findLikeQuery? name with
      | some handle => some (handle.origin, handle.algorithm.counts, false)
      | none => none

/-- The counters of the configured encryptors' counting objects, in ascending order of names. -/
def usage (rule : Rule) (ledger : Ledger) : List Usage :=
  rule.configuration.encryptors.keys.filterMap fun name =>
    match rule.objectOf? name with
    | some (origin, true, countsBatches) => some ⟨name, ledger.counters origin, countsBatches⟩
    | _ => none

end Rule

end ColumnCrypt
