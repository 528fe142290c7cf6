import ColumnCrypt.Algorithm

/-!
Faults of building and using rules.

A fault names its cause; its code, message and context are read off the cause by `Fault.code`,
`Fault.message` and `Fault.context`. The context names the object at fault: a table, a
`table.column` pair, an encryptor or an algorithm type.
-/

namespace ColumnCrypt

inductive ErrorCode where
  | mismatchedAlgorithmType
  | tableNotFound
  | columnNotFound
  | missingEncryptor
  | algorithmNotFound
  | algorithmInitFailure
  | invalidConfiguration
  | algorithmFailure
deriving DecidableEq, Repr

def ErrorCode.name : ErrorCode → String
  | .mismatchedAlgorithmType => "MismatchedAlgorithmType"
  | .tableNotFound => "TableNotFound"
  | .columnNotFound => "ColumnNotFound"
  | .missingEncryptor => "MissingEncryptor"
  | .algorithmNotFound => "AlgorithmNotFound"
  | .algorithmInitFailure => "AlgorithmInitFailure"
  | .invalidConfiguration => "InvalidConfiguration"
  | .algorithmFailure => "AlgorithmFailure"

inductive Operation where
  | encrypt
  | batchEncrypt
  | decrypt
  | assistedQuery
  | likeQuery
deriving DecidableEq, Repr

def Operation.name : Operation → String
  | .encrypt => "encrypt"
  | .batchEncrypt => "batch encrypt"
  | .decrypt => "decrypt"
  | .assistedQuery => "assisted query encrypt"
  | .likeQuery => "like query encrypt"

/-- The cause of a fault. -/
inductive Fault where
  | emptyTableName
  | emptyColumnName (table : String)
  | duplicateColumn (table column : String)
  | roleMismatch (role : Role) (encryptor table column : String)
  | duplicateStorageColumn (table storage column : String)
  | duplicateCipherColumn (table storage : String)
  | duplicateTable (table : String)
  | tableNotFound (table : String)
  | columnNotFound (table column : String)
  | cipherColumnNotFound (table storage : String)
  | missingEncryptor (role : Role) (table column : String)
  | algorithmFailed (operation : Operation) (table column what : String)
  | notRegistered (type : String)
  | initFailed (type what : String)
  | noCapability (type : String)
  | unknownType (type : String)
  | given (code : ErrorCode) (message context : String)
  | ofEncryptor (encryptor : String) (cause : Fault)
deriving DecidableEq, Repr

namespace Fault

def code : Fault → ErrorCode
  | emptyTableName | emptyColumnName .. | duplicateColumn .. | duplicateStorageColumn ..
  | duplicateCipherColumn .. | duplicateTable .. => .invalidConfiguration
  | roleMismatch .. => .mismatchedAlgorithmType
  | tableNotFound .. => .tableNotFound
  | columnNotFound .. | cipherColumnNotFound .. => .columnNotFound
  | missingEncryptor .. => .missingEncryptor
  | algorithmFailed .. => .algorithmFailure
  | notRegistered .. | unknownType .. => .algorithmNotFound
  | initFailed .. | noCapability .. => .algorithmInitFailure
  | given code .. => code
  | ofEncryptor _ cause => cause.code

def message : Fault → String
  | emptyTableName => "Encrypt table name must not be empty"
  | emptyColumnName table => s!"Encrypt table '{table}' has a column with an empty logic name"
  | duplicateColumn table column => s!"Duplicate encrypt column '{column}' in table '{table}'"
  | roleMismatch role encryptor table column =>
    role.label ++ s!" encryptor '{encryptor}' of column '{table}.{column}' must be an instance of '"
      ++ role.capability.interfaceName ++ "'"
  | duplicateStorageColumn table storage column =>
    s!"Duplicate storage column '{storage}' of column '{table}.{column}'"
  | duplicateCipherColumn table storage => s!"Duplicate cipher column '{storage}' in table '{table}'"
  | duplicateTable table => s!"Duplicate encrypt table '{table}'"
  | tableNotFound table => s!"Can not find encrypt table '{table}'"
  | columnNotFound table column => s!"Can not find encrypt column '{column}' in table '{table}'"
  | cipherColumnNotFound table storage =>
    s!"Can not find logic column of cipher column '{storage}' in table '{table}'"
  | missingEncryptor role table column =>
    "Can not find " ++ role.token ++ s!" encryptor of column '{table}.{column}'"
  | algorithmFailed operation table column what =>
    "Encrypt algorithm failed during " ++ operation.name ++ s!" of '{table}.{column}': {what}"
  | notRegistered type => s!"No encrypt algorithm registered for type '{type}'"
  | initFailed type what => s!"Failed to initialize encrypt algorithm '{type}': {what}"
  | noCapability type => s!"Encrypt algorithm '{type}' does not provide any capability"
  | unknownType type => "unknown type " ++ type
  | given _ message _ => message
  | ofEncryptor _ cause => cause.message

def context : Fault → String
  | emptyTableName => ""
  | emptyColumnName table => table
  | duplicateColumn table column => table ++ "." ++ column
  | roleMismatch _ encryptor _ _ => encryptor
  | duplicateStorageColumn table storage _ => table ++ "." ++ storage
  | duplicateCipherColumn table storage => table ++ "." ++ storage
  | duplicateTable table => table
  | tableNotFound table => table
  | columnNotFound table column => table ++ "." ++ column
  | cipherColumnNotFound table storage => table ++ "." ++ storage
  | missingEncryptor _ table column => table ++ "." ++ column
  | algorithmFailed _ table column _ => table ++ "." ++ column
  | notRegistered type | initFailed type _ | noCapability type | unknownType type => type
  | given _ _ context => context
  | ofEncryptor encryptor _ => encryptor

end Fault

end ColumnCrypt
