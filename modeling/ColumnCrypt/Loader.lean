import ColumnCrypt.Table
import ColumnCrypt.Folder
import ColumnCrypt.Yaml.Block

/-!
Loading rule configurations from YAML.

The root is a mapping with exactly one of the sections `encrypt` and `compatible_encrypt`, each
field looked up by the first key that is the scalar of its name. A section reads its
`encryptors` (names to a non-empty scalar `type` and scalar `props`) before its `tables` (names
to `columns`, logic names to a `cipher` item and optional `assisted_query` and `like_query`
items). Every key of every mapping read must read as text, a null value reads as an empty text,
and the first fault stops the load, naming its place by the keys that lead to it.
-/

namespace ColumnCrypt

/-- The faults of a configuration document that parses. -/
inductive RuleFault where
  | topLevelNotMap
  | bothSections
  | missingSection
  | notAMap (place : String)
  | notAScalar (place : String)
  | required (place : String)
  | unreadableKey (mark : Yaml.Mark)
deriving DecidableEq, Repr

def Yaml.Mark.describe (mark : Yaml.Mark) : String :=
  s!"yaml-cpp: error at line {mark.line + 1}, column {mark.column + 1}"

def RuleFault.message : RuleFault → String
  | .topLevelNotMap => "top-level YAML node is not a map"
  | .bothSections => "both 'encrypt' and 'compatible_encrypt' are present"
  | .missingSection => "missing 'encrypt' section"
  | .notAMap place => s!"'{place}' must be a map"
  | .notAScalar place => s!"'{place}' must be a scalar"
  | .required place => s!"'{place}' is required"
  | .unreadableKey mark => "YAML error: " ++ mark.describe ++ ": bad conversion"

inductive TextSource where
  | inline
  | file (path : String)
deriving DecidableEq, Repr

def TextSource.describe : TextSource → String
  | .inline => "<string>"
  | .file path => "'" ++ path ++ "'"

/-- The faults of loading a configuration. -/
inductive LoadError where
  | malformed (source : TextSource) (error : Yaml.ParseError)
  | invalid (source : TextSource) (fault : RuleFault)
  | unresolved (path reason : String)
deriving DecidableEq, Repr

def LoadError.message : LoadError → String
  | .malformed source error =>
    let mark := error.mark
    let place := match source with
      | .inline => ""
      | .file path => " in '" ++ path ++ "'"
    s!"encrypt_rule_loader: YAML parse error{place} at line {mark.line + 1}, col {mark.column + 1}: "
      ++ mark.describe ++ ": " ++ error.problem.message
  | .invalid source fault =>
    "encrypt_rule_loader: invalid rule in " ++ source.describe ++ ": " ++ fault.message
  | .unresolved path reason => s!"encrypt_rule_loader: cannot resolve config path '{path}': {reason}"

namespace Loader

open Yaml

def keyText (key : Node) : Except RuleFault String :=
  match key.keyText with
  | .ok text => .ok text
  | .error mark => .error (.unreadableKey mark)

def checkKeys (entries : List (Node × Node)) : Except RuleFault Unit :=
  entries.forM fun entry => do let _ ← keyText entry.1

def readScalar (node : Option Node) (place : String) : Except RuleFault String :=
  match node with
  | none | some (.null _) => .ok ""
  | some (.scalar text _) => .ok text
  | some _ => .error (.notAScalar place)

def isAbsent : Option Node → Bool
  | none | some (.null _) => true
  | _ => false

def readItem (node : Node) (place : String) : Except RuleFault ItemConfig := do
  let some entries := node.entries? | throw (.notAMap place)
  checkKeys entries
  let name ← readScalar (node.get? "name") (place ++ ".name")
  let encryptor ← readScalar (node.get? "encryptor_name") (place ++ ".encryptor_name")
  if encryptor = "" then throw (.required (place ++ ".encryptor_name"))
  return { name, encryptor }

def readOptionalItem (node : Option Node) (place : String) : Except RuleFault (Option ItemConfig) :=
  match node with
  | some item => if isAbsent node then .ok none else some <$> readItem item place
  | none => .ok none

def readColumn (name : String) (node : Node) (place : String) : Except RuleFault ColumnConfig := do
  let some entries := node.entries? | throw (.notAMap place)
  checkKeys entries
  let some cipherNode := node.get? "cipher" | throw (.required (place ++ ".cipher"))
  let cipher ← readItem cipherNode (place ++ ".cipher")
  let assistedQuery ← readOptionalItem (node.get? "assisted_query") (place ++ ".assisted_query")
  let likeQuery ← readOptionalItem (node.get? "like_query") (place ++ ".like_query")
  return { name, cipher, assistedQuery, likeQuery }

def readTable (entry : Node × Node) : Except RuleFault TableConfig := do
  let name ← keyText entry.1
  let place := "tables." ++ name
  let some entries := entry.2.entries? | throw (.notAMap place)
  checkKeys entries
  let columnsNode := entry.2.get? "columns"
  if isAbsent columnsNode then return { name }
  let some columnEntries := columnsNode.bind Node.entries? | throw (.notAMap (place ++ ".columns"))
  let columns ← columnEntries.mapM fun (key, value) => do
    let column ← keyText key
    readColumn column value (place ++ ".columns." ++ column)
  return { name, columns }

def readTables (node : Option Node) : Except RuleFault (List TableConfig) := do
  if isAbsent node then return []
  let some entries := node.bind Node.entries? | throw (.notAMap "tables")
  entries.mapM readTable

def readProperties (node : Option Node) (place : String) : Except RuleFault Properties := do
  if isAbsent node then return Dictionary.empty
  let some entries := node.bind Node.entries? | throw (.notAMap (place ++ ".props"))
  let addProperty (properties : Properties) (entry : Node × Node) : Except RuleFault Properties := do
    let name ← keyText entry.1
    match entry.2 with
    | .scalar text _ => pure (properties.insert name text)
    | _ => throw (.notAScalar (place ++ ".props." ++ name))
  entries.foldlM addProperty Dictionary.empty

def readEncryptors (node : Option Node) : Except RuleFault (Dictionary EncryptorConfig) := do
  if isAbsent node then return Dictionary.empty
  let some entries := node.bind Node.entries? | throw (.notAMap "encryptors")
  let addEncryptor (encryptors : Dictionary EncryptorConfig) (entry : Node × Node) :
      Except RuleFault (Dictionary EncryptorConfig) := do
    let name ← keyText entry.1
    let place := "encryptors." ++ name
    let some fields := entry.2.entries? | throw (.notAMap place)
    checkKeys fields
    let type ← readScalar (entry.2.get? "type") (place ++ ".type")
    if type = "" then throw (.required (place ++ ".type"))
    let properties ← readProperties (entry.2.get? "props") place
    pure (encryptors.insert name { type, properties })
  entries.foldlM addEncryptor Dictionary.empty

def readSection (node : Node) (sectionName : String) : Except RuleFault RuleConfig := do
  let some entries := node.entries? | throw (.notAMap sectionName)
  checkKeys entries
  let encryptors ← readEncryptors (node.get? "encryptors")
  let tables ← readTables (node.get? "tables")
  return { encryptors, tables }

def readRoot (root : Node) : Except RuleFault RuleConfig :=
  match root.entries? with
  | none => .error .topLevelNotMap
  | some _ =>
    match root.get? "encrypt", root.get? "compatible_encrypt" with
    | some _, some _ => .error .bothSections
    | some current, none => readSection current "encrypt"
    | none, some legacy => readSection legacy "compatible_encrypt"
    | none, none => .error .missingSection

/-- Loads a configuration from a text. -/
def loadText (source : TextSource) (text : String) : Except LoadError RuleConfig :=
  match Yaml.parse text with
  | .error error => .error (.malformed source error)
  | .ok root =>
    match readRoot root with
    | .error fault => .error (.invalid source fault)
    | .ok config => .ok config

/-- Loads a configuration from a path under a folder: a path that names nothing cannot be
resolved, and a directory reads as an empty document. Faults name a path that resolves by its
canonical spelling. -/
def loadPath (folder : Folder) (path : String) : Except LoadError RuleConfig :=
  match folder.resolve path with
  | .error reason => .error (.unresolved path reason)
  | .ok (canonical, .directory) => loadText (.file canonical) ""
  | .ok (canonical, .file text) => loadText (.file canonical) text

end Loader

end ColumnCrypt
