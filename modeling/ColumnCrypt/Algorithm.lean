import ColumnCrypt.Binary64
import ColumnCrypt.Text

/-!
Values and algorithm objects.

A rule implements no cryptography: it hands SQL values to algorithm objects. An object of a role
is any `other` object, given by what it makes of one value, or one of the stand-ins that mark a
value with a leading text, so that what a rule did can be read off its answers. A factory hands
out objects as instances: a type, a capability byte and up to one handle per role. The stand-ins
count each call, at its start, in a ledger keyed by the object's origin.
-/

namespace ColumnCrypt

/-- A SQL value: NULL, a 64-bit integer, a double, or a text. -/
inductive Value where
  | null
  | int (n : Int64)
  | real (x : Binary64)
  | text (s : String)
deriving DecidableEq, Repr, Inhabited

namespace Value

def isNull : Value → Bool
  | null => true
  | _ => false

end Value

/-! ### Capabilities -/

/-- A set of capabilities, one bit each. -/
structure Capability where
  bits : UInt8
deriving DecidableEq, Repr, Inhabited

inductive Role where
  | cipher
  | assistedQuery
  | likeQuery
deriving DecidableEq, Repr

namespace Capability

def none : Capability := ⟨0⟩

def cipher : Capability := ⟨1⟩

def assistedQuery : Capability := ⟨2⟩

def likeQuery : Capability := ⟨4⟩

def union (set other : Capability) : Capability :=
  ⟨set.bits ||| other.bits⟩

/-- Whether a set holds a flag: the flag is not empty and each of its bits is in the set. -/
def has (set flag : Capability) : Bool :=
  flag.bits != 0 && (set.bits &&& flag.bits) == flag.bits

def interfaceName (flag : Capability) : String :=
  if flag = cipher then "CipherAlgorithm"
  else if flag = assistedQuery then "AssistedQueryAlgorithm"
  else if flag = likeQuery then "LikeQueryAlgorithm"
  else "None"

end Capability

namespace Role

def capability : Role → Capability
  | cipher => Capability.cipher
  | assistedQuery => Capability.assistedQuery
  | likeQuery => Capability.likeQuery

def ofCapability? (flag : Capability) : Option Role :=
  if flag = Capability.cipher then some cipher
  else if flag = Capability.assistedQuery then some assistedQuery
  else if flag = Capability.likeQuery then some likeQuery
  else Option.none

def label : Role → String
  | cipher => "Cipher"
  | assistedQuery => "Assisted query"
  | likeQuery => "Like query"

def token : Role → String
  | cipher => "CIPHER"
  | assistedQuery => "ASSIST_QUERY"
  | likeQuery => "LIKE_QUERY"

end Role

/-! ### Algorithm objects -/

/-- Where an algorithm object comes from: the one object of a type that a factory of fixed
instances shares, or the object made for an encryptor when a rule was built on an occasion. Two
handles reach one object exactly when their origins are equal. -/
inductive Origin where
  | shared (type : String)
  | created (occasion : Nat) (encryptor : String)
deriving DecidableEq, Repr, Inhabited

/-- What a rule tells an algorithm about a call: the database, schema, table (as the caller wrote
it) and logic column. -/
structure CallContext where
  database : String
  schema : String
  table : String
  column : String
deriving DecidableEq, Repr

/-- Ciphers. The stand-ins: `marking` writes a value behind its marker, `batchCounting` marks with
`enc:` and counts the batches it is given, `dual` is the cipher side of an object that also makes
exact-match tokens, `unavailable` fails on every call, and `echo` returns the call's context. Any
`other` cipher is given by what it makes of one value; it counts nothing, and a batch reaches it
element by element, as the default batch encryption of the interface does. -/
inductive Cipher where
  | marking (marker : String)
  | batchCounting
  | dual
  | unavailable
  | echo
  | other (encrypt decrypt : CallContext → Value → Except String Value)

instance (cipher : Cipher) : Decidable (cipher = .batchCounting) :=
  match cipher with
  | .batchCounting => isTrue rfl
  | .marking _ | .dual | .unavailable | .echo | .other _ _ => isFalse Cipher.noConfusion

inductive AssistedQuery where
  | marking
  | dual
  | unavailable
  | echo
  | other (token : CallContext → Value → Except String Value)

inductive LikeQuery where
  | marking
  | unavailable
  | echo
  | other (token : CallContext → Value → Except String Value)

/-- An algorithm object of a role, with the origin that tells objects apart. -/
structure Handle (α : Type) where
  origin : Origin
  algorithm : α
deriving DecidableEq, Repr

namespace Algorithm

def encryptedNull : String := "<encrypted-null>"

def integerTag : String := "i:"

def mark (lead : String) : Value → Except String String
  | .text s => .ok (lead ++ s)
  | .int n => .ok (lead ++ integerTag ++ Text.decimal n)
  | _ => .error "unsupported value type"

def echo (call : String) (context : CallContext) (value : Value) : Except String Value := do
  let shown ← if value.isNull then pure "NULL" else mark "" value
  pure (.text (String.intercalate "|"
    [call, context.database, context.schema, context.table, context.column, shown]))

def afterLead (lead text : String) : Option String :=
  if lead.toList.isPrefixOf text.toList then some (String.ofList (text.toList.drop lead.length))
  else none

/-- Decrypting under a marker: the sentinel is NULL, the marker is taken off, and what is left is
an integer if it starts with the integer tag; other values are returned as they are. -/
def unmark (marker : String) : Value → Except String Value
  | .text s =>
    if s = encryptedNull then .ok .null
    else match afterLead marker s with
      | none => .error "not a cipher value"
      | some rest =>
        match afterLead integerTag rest with
        | some digits =>
          match Text.leadingInt64? digits with
          | some n => .ok (.int n)
          | none => .error "stoll"
        | none => .ok (.text rest)
  | value => .ok value

end Algorithm

namespace Cipher

def marker? : Cipher → Option String
  | marking marker => some marker
  | batchCounting => some "enc:"
  | _ => none

def counts : Cipher → Bool
  | unavailable | other _ _ => false
  | _ => true

def encrypt (cipher : Cipher) (context : CallContext) (value : Value) : Except String Value :=
  match cipher with
  | marking marker =>
    if value.isNull then .ok (.text Algorithm.encryptedNull) else .text <$> Algorithm.mark marker value
  | batchCounting =>
    if value.isNull then .ok (.text Algorithm.encryptedNull) else .text <$> Algorithm.mark "enc:" value
  | dual => if value.isNull then .ok .null else .text <$> Algorithm.mark "dual:" value
  | unavailable => .error "cipher backend unavailable"
  | echo => Algorithm.echo "enc" context value
  | other encrypt _ => encrypt context value

def decrypt (cipher : Cipher) (context : CallContext) (value : Value) : Except String Value :=
  match cipher with
  | marking marker => Algorithm.unmark marker value
  | batchCounting => Algorithm.unmark "enc:" value
  | dual => .ok value
  | unavailable => .error "cipher backend unavailable"
  | echo => Algorithm.echo "dec" context value
  | other _ decrypt => decrypt context value

end Cipher

namespace AssistedQuery

def counts : AssistedQuery → Bool
  | unavailable | other _ => false
  | _ => true

def token (algorithm : AssistedQuery) (context : CallContext) (value : Value) :
    Except String Value :=
  match algorithm with
  | marking => .text <$> Algorithm.mark "assisted:" value
  | dual => .text <$> Algorithm.mark "dual-assisted:" value
  | unavailable => .error "digest backend unavailable"
  | echo => Algorithm.echo "assisted" context value
  | other token => token context value

end AssistedQuery

namespace LikeQuery

def counts : LikeQuery → Bool
  | unavailable | other _ => false
  | _ => true

def token (algorithm : LikeQuery) (context : CallContext) (value : Value) :
    Except String Value :=
  match algorithm with
  | marking => .text <$> Algorithm.mark "like:" value
  | unavailable => .error "like backend unavailable"
  | echo => Algorithm.echo "like" context value
  | other token => token context value

end LikeQuery

/-! ### Instances -/

/-- What a factory hands out for an algorithm type. -/
structure Instance where
  type : String
  capabilities : Capability
  cipher : Option (Handle Cipher) := none
  assistedQuery : Option (Handle AssistedQuery) := none
  likeQuery : Option (Handle LikeQuery) := none
deriving Inhabited

namespace Instance

/-- The instance of one object: a handle for each role it serves, and exactly the capabilities of
those roles. An instance without handles has no capability. -/
def ofHandles (type : String) (cipher : Option (Handle Cipher))
    (assistedQuery : Option (Handle AssistedQuery)) (likeQuery : Option (Handle LikeQuery)) :
    Instance :=
  let flag (present : Bool) (capability : Capability) : Capability :=
    if present then capability else Capability.none
  { type
    capabilities :=
      (flag cipher.isSome Capability.cipher).union
        ((flag assistedQuery.isSome Capability.assistedQuery).union
          (flag likeQuery.isSome Capability.likeQuery))
    cipher, assistedQuery, likeQuery }

end Instance

/-! ### Call counters -/

structure Counters where
  calls : Nat := 0
  batchCalls : Nat := 0
  lastBatchSize : Nat := 0
deriving DecidableEq, Repr, Inhabited

/-- The counters of every algorithm object, by origin. -/
structure Ledger where
  counters : Origin → Counters

namespace Ledger

def empty : Ledger := ⟨fun _ => {}⟩

instance : Inhabited Ledger := ⟨empty⟩

def update (ledger : Ledger) (origin : Origin) (change : Counters → Counters) : Ledger :=
  ⟨fun other => if other = origin then change (ledger.counters other) else ledger.counters other⟩

def recordCall (ledger : Ledger) (origin : Origin) (counts : Bool) : Ledger :=
  if counts then ledger.update origin fun c => { c with calls := c.calls + 1 } else ledger

def recordBatch (ledger : Ledger) (origin : Origin) (size : Nat) : Ledger :=
  ledger.update origin fun c => { c with batchCalls := c.batchCalls + 1, lastBatchSize := size }

@[simp] theorem counters_update_self (ledger : Ledger) (origin : Origin)
    (change : Counters → Counters) :
    (ledger.update origin change).counters origin = change (ledger.counters origin) := by
  simp [update]

@[simp] theorem counters_update_other (ledger : Ledger) {origin other : Origin}
    (change : Counters → Counters) (h : other ≠ origin) :
    (ledger.update origin change).counters other = ledger.counters other := by
  simp [update, h]

@[simp] theorem batchCalls_recordCall (ledger : Ledger) (origin other : Origin) (counts : Bool) :
    ((ledger.recordCall origin counts).counters other).batchCalls =
      (ledger.counters other).batchCalls := by
  by_cases same : other = origin <;> cases counts <;> simp [recordCall, same]

@[simp] theorem lastBatchSize_recordCall (ledger : Ledger) (origin other : Origin) (counts : Bool) :
    ((ledger.recordCall origin counts).counters other).lastBatchSize =
      (ledger.counters other).lastBatchSize := by
  by_cases same : other = origin <;> cases counts <;> simp [recordCall, same]

end Ledger

end ColumnCrypt
