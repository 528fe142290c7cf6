import ColumnCrypt.Factory

/-!
Configured and built tables.

A configuration names encryptors by name and lists tables in order; a column binds its logic name
to a cipher item and, optionally, an assisted-query and a like-query item, each naming a storage
column (empty for the default) and an encryptor. Building a table checks, in order, its name,
each column's name, the roles of its encryptors and the clashes of its storage names, letters
compared case-blind; the first failing check stops the build.
-/

namespace ColumnCrypt

structure ItemConfig where
  name : String := ""
  encryptor : String := ""
deriving DecidableEq, Repr, Inhabited

structure ColumnConfig where
  name : String := ""
  cipher : ItemConfig := {}
  assistedQuery : Option ItemConfig := none
  likeQuery : Option ItemConfig := none
deriving DecidableEq, Repr, Inhabited

structure TableConfig where
  name : String := ""
  columns : List ColumnConfig := []
deriving DecidableEq, Repr, Inhabited

structure EncryptorConfig where
  type : String := ""
  properties : Properties := Dictionary.empty
deriving DecidableEq, Repr, Inhabited

/-- A rule configuration: encryptors by name, and tables in declaration order. -/
structure RuleConfig where
  encryptors : Dictionary EncryptorConfig := Dictionary.empty
  tables : List TableConfig := []
deriving DecidableEq, Repr, Inhabited

/-! ### Built tables -/

structure Binding (α : Type) where
  storage : String
  encryptor : String
  handle : Handle α
deriving DecidableEq, Repr

/-- A column as built. -/
structure Column where
  name : String
  cipher : Binding Cipher
  assistedQuery : Option (Binding AssistedQuery)
  likeQuery : Option (Binding LikeQuery)

/-- A table as built: its configured name and its columns in order. -/
structure Table where
  name : String
  columns : List Column

namespace Table

def storageName (configured logic suffix : String) : String :=
  if configured = "" then logic ++ suffix else configured

/-- What the build of a table has gathered so far: the columns built, the storage names
claimed, and the cipher storage names indexed, both folded to small letters. -/
structure Progress where
  columns : List Column := []
  claimed : List String := []
  cipherKeys : List String := []
deriving Inhabited

def bindItem {α : Type} (role : Role) (find : String → Option (Handle α)) (table column suffix : String) :
    Option ItemConfig → Except Fault (Option (Binding α))
  | none => .ok none
  | some item =>
    match find item.encryptor with
    | none => .error (.roleMismatch role item.encryptor table column)
    | some handle => .ok (some ⟨storageName item.name column suffix, item.encryptor, handle⟩)

/-- Claims storage names in order against those claimed before. -/
def claim (table column : String) (claimed : List String) : List String → Except Fault (List String)
  | [] => .ok claimed
  | storage :: rest =>
    if claimed.contains (Text.lowerAscii storage) then
      .error (.duplicateStorageColumn table storage column)
    else claim table column (claimed ++ [Text.lowerAscii storage]) rest

/-- Builds the next column of a table. -/
def addColumn (table : String) (registry : CapabilityRegistry) (progress : Progress)
    (config : ColumnConfig) : Except Fault Progress := do
  if config.name = "" then throw (.emptyColumnName table)
  if progress.columns.any (·.name = config.name) then throw (.duplicateColumn table config.name)
  let some cipher := registry.findCipher? config.cipher.encryptor
    | throw (.roleMismatch .cipher config.cipher.encryptor table config.name)
  let assistedQuery ← bindItem .assistedQuery registry.findAssistedQuery? table config.name
    "_assisted" config.assistedQuery
  let likeQuery ← bindItem .likeQuery registry.findLikeQuery? table config.name "_like"
    config.likeQuery
  let cipherStorage := storageName config.cipher.name config.name ""
  let claimed ← claim table config.name progress.claimed
    (cipherStorage :: (assistedQuery.map (·.storage)).toList ++ (likeQuery.map (·.storage)).toList)
  if progress.cipherKeys.contains (Text.lowerAscii cipherStorage) then
    throw (.duplicateCipherColumn table cipherStorage)
  let column : Column :=
    ⟨config.name, ⟨cipherStorage, config.cipher.encryptor, cipher⟩, assistedQuery, likeQuery⟩
  pure { columns := progress.columns ++ [column], claimed,
         cipherKeys := progress.cipherKeys ++ [Text.lowerAscii cipherStorage] }

/-- Builds a table from its configuration against the encryptors sorted by capability. -/
def build (config : TableConfig) (registry : CapabilityRegistry) : Except Fault Table := do
  if config.name = "" then throw .emptyTableName
  let progress ← config.columns.foldlM (addColumn config.name registry) {}
  pure ⟨config.name, progress.columns⟩

def logicColumns (table : Table) : List String :=
  table.columns.map (·.name)

def column? (table : Table) (name : String) : Option Column :=
  table.columns.find? (·.name = name)

def isEncryptColumn (table : Table) (name : String) : Bool :=
  (table.column? name).isSome

def column (table : Table) (name : String) : Except Fault Column :=
  match table.column? name with
  | some column => .ok column
  | none => .error (.columnNotFound table.name name)

def findAssistedQuery? (table : Table) (name : String) : Option (Handle AssistedQuery) :=
  (table.column? name).bind fun column => column.assistedQuery.map (·.handle)

def findLikeQuery? (table : Table) (name : String) : Option (Handle LikeQuery) :=
  (table.column? name).bind fun column => column.likeQuery.map (·.handle)

def columnOfCipher? (table : Table) (storage : String) : Option Column :=
  table.columns.find? (Text.lowerAscii ·.cipher.storage = Text.lowerAscii storage)

def isCipherColumn (table : Table) (storage : String) : Bool :=
  (table.columnOfCipher? storage).isSome

def logicColumnOfCipher (table : Table) (storage : String) : Except Fault String :=
  match table.columnOfCipher? storage with
  | some column => .ok column.name
  | none => .error (.cipherColumnNotFound table.name storage)

end Table

end ColumnCrypt
