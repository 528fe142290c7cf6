import ColumnCrypt.Rule

/-!
Sessions: the stand-in algorithms, the questions put to rules, and holders of the rule in force.

A kind names one way of making stand-in objects; a session registers kinds under types in a
registry of creators or a factory of fixed instances. A holder keeps the rule in force and counts
the rules put in force; a reload whose build fails leaves it as it was. Calls count in one ledger
for the whole session, so objects that a factory shares keep counting across reloads.
-/

namespace ColumnCrypt

/-- The kinds of stand-in algorithms. A marking cipher reads its marker from the property `prefix`
(default `enc:`), a keyed cipher insists on the property `aes-key-value`, and an untyped cipher's
instance reports the empty type; the last three kinds exist only as creators. -/
inductive AlgorithmKind where
  | markingCipher
  | batchCountingCipher
  | assistedQuery
  | likeQuery
  | dual
  | unavailableCipher
  | unavailableAssistedQuery
  | unavailableLikeQuery
  | echo
  | keyedCipher
  | withoutObject
  | untypedCipher
  | emptyInstance
  | refusing
  | emptyCreator
deriving DecidableEq, Repr

namespace AlgorithmKind

def markerOf (properties : Properties) : String :=
  (properties.find? "prefix").getD "enc:"

def object? (kind : AlgorithmKind) (type : String) (origin : Origin) (marker : String) :
    Option Instance :=
  let handle {α : Type} (algorithm : α) : Option (Handle α) := some ⟨origin, algorithm⟩
  match kind with
  | markingCipher => some (Instance.ofHandles type (handle (Cipher.marking marker)) none none)
  | batchCountingCipher => some (Instance.ofHandles type (handle Cipher.batchCounting) none none)
  | assistedQuery => some (Instance.ofHandles type none (handle AssistedQuery.marking) none)
  | likeQuery => some (Instance.ofHandles type none none (handle LikeQuery.marking))
  | dual => some (Instance.ofHandles type (handle Cipher.dual) (handle AssistedQuery.dual) none)
  | unavailableCipher => some (Instance.ofHandles type (handle Cipher.unavailable) none none)
  | unavailableAssistedQuery =>
    some (Instance.ofHandles type none (handle AssistedQuery.unavailable) none)
  | unavailableLikeQuery => some (Instance.ofHandles type none none (handle LikeQuery.unavailable))
  | echo =>
    some (Instance.ofHandles type (handle Cipher.echo) (handle AssistedQuery.echo)
      (handle LikeQuery.echo))
  | withoutObject => some (Instance.ofHandles type none none none)
  | untypedCipher => some (Instance.ofHandles "" (handle (Cipher.marking "enc:")) none none)
  | keyedCipher | emptyInstance | refusing | emptyCreator => none

def isFixed : AlgorithmKind → Bool
  | untypedCipher | keyedCipher | emptyInstance | refusing | emptyCreator => false
  | _ => true

def creator? (kind : AlgorithmKind) (type : String) : Option Creator :=
  match kind with
  | emptyCreator => none
  | refusing => some ⟨fun _ _ => .refused (.given .invalidConfiguration "bad props" "STRICT")⟩
  | emptyInstance => some ⟨fun _ _ => .built { type := "", capabilities := Capability.none }⟩
  | keyedCipher =>
    some ⟨fun origin properties =>
      if properties.contains "aes-key-value" then
        .built (Instance.ofHandles type (some ⟨origin, Cipher.marking (markerOf properties)⟩)
          none none)
      else .threw "aes-key-value is required"⟩
  | kind =>
    some ⟨fun origin properties =>
      match kind.object? type origin (markerOf properties) with
      | some made => .built made
      | none => .built { type, capabilities := Capability.none }⟩

end AlgorithmKind

/-! ### Questions and answers -/

inductive Answer where
  | nothing
  | flag (value : Bool)
  | count (value : Nat)
  | text (value : String)
  | texts (values : List String)
  | value (value : Value)
  | values (values : List Value)
  | table (table : Table)
  | column (column : Column)
  | summary (rule : Rule)
  | configuration (config : RuleConfig)
  | mappers (logic actual distributed enhanced : TableNames)
  | instance (made : Instance)
  | roles (cipher assistedQuery likeQuery : Bool)

inductive RegistryQuery where
  | size (flag : Capability)
  | contains (flag : Capability) (name : String)
  | resolve (flag : Capability) (name : String)
  | find (name : String)
deriving DecidableEq, Repr

def RegistryQuery.run (registry : CapabilityRegistry) : RegistryQuery → Answer
  | .size flag => .count (registry.size flag)
  | .contains flag name => .flag (registry.contains flag name)
  | .resolve flag name =>
    match registry.resolve? flag name with
    | some made => .instance made
    | none => .nothing
  | .find name =>
    .roles (registry.findCipher? name).isSome (registry.findAssistedQuery? name).isSome
      (registry.findLikeQuery? name).isSome

inductive TableQuery where
  | name
  | logicColumns
  | summary
  | isEncryptColumn (column : String)
  | findColumn (column : String)
  | getColumn (column : String)
  | hasAssistedQuery (column : String)
  | hasLikeQuery (column : String)
  | isCipherColumn (storage : String)
  | logicColumnOfCipher (storage : String)
deriving DecidableEq, Repr

def TableQuery.run (table : Table) : TableQuery → Except Fault Answer
  | .name => .ok (.text table.name)
  | .logicColumns => .ok (.texts table.logicColumns)
  | .summary => .ok (.table table)
  | .isEncryptColumn column => .ok (.flag (table.isEncryptColumn column))
  | .findColumn column =>
    .ok (match table.column? column with
      | some found => .column found
      | none => .nothing)
  | .getColumn column => Answer.column <$> table.column column
  | .hasAssistedQuery column => .ok (.flag (table.findAssistedQuery? column).isSome)
  | .hasLikeQuery column => .ok (.flag (table.findLikeQuery? column).isSome)
  | .isCipherColumn storage => .ok (.flag (table.isCipherColumn storage))
  | .logicColumnOfCipher storage => Answer.text <$> table.logicColumnOfCipher storage

/-- Questions to a rule. -/
inductive RuleQuery where
  | encrypt (call : CallContext) (value : Value)
  | encryptBatch (call : CallContext) (values : List Value)
  | decrypt (call : CallContext) (value : Value)
  | assistedToken (call : CallContext) (value : Value)
  | assistedTokens (call : CallContext) (values : List Value)
  | likeToken (call : CallContext) (value : Value)
  | likeTokens (call : CallContext) (values : List Value)
  | findTable (name : String)
  | getTable (name : String)
  | logicTables
  | actualTables
  | distributedTables
  | enhancedTables
  | mappers
  | logicContains (name : String)
  | actualContains (name : String)
  | kind
  | configuration
  | summary
  | registry (query : RegistryQuery)
  | table (name : String) (query : TableQuery)

def RuleQuery.run (rule : Rule) (ledger : Ledger) : RuleQuery → Dispatched Answer
  | .encrypt call value =>
    let (answer, ledger) := rule.encrypt ledger call value
    (Answer.value <$> answer, ledger)
  | .encryptBatch call values =>
    let (answer, ledger) := rule.encryptBatch ledger call values
    (Answer.values <$> answer, ledger)
  | .decrypt call value =>
    let (answer, ledger) := rule.decrypt ledger call value
    (Answer.value <$> answer, ledger)
  | .assistedToken call value =>
    let (answer, ledger) := rule.assistedToken ledger call value
    (Answer.value <$> answer, ledger)
  | .assistedTokens call values =>
    let (answer, ledger) := rule.assistedTokens ledger call values
    (Answer.values <$> answer, ledger)
  | .likeToken call value =>
    let (answer, ledger) := rule.likeToken ledger call value
    (Answer.value <$> answer, ledger)
  | .likeTokens call values =>
    let (answer, ledger) := rule.likeTokens ledger call values
    (Answer.values <$> answer, ledger)
  | .findTable name =>
    (.ok (match rule.table? name with
      | some found => .table found
      | none => .nothing), ledger)
  | .getTable name => (Answer.table <$> rule.table name, ledger)
  | .logicTables => (.ok (.texts rule.names.names), ledger)
  | .actualTables => (.ok (.texts rule.actualTables.names), ledger)
  | .distributedTables => (.ok (.texts rule.distributedTables.names), ledger)
  | .enhancedTables => (.ok (.texts rule.enhancedTables.names), ledger)
  | .mappers =>
    (.ok (.mappers rule.names rule.actualTables rule.distributedTables rule.enhancedTables), ledger)
  | .logicContains name => (.ok (.flag (rule.names.contains name)), ledger)
  | .actualContains name => (.ok (.flag (rule.actualTables.contains name)), ledger)
  | .kind => (.ok (.text Rule.kindName), ledger)
  | .configuration => (.ok (.configuration rule.configuration), ledger)
  | .summary => (.ok (.summary rule), ledger)
  | .registry query => (.ok (query.run rule.registry), ledger)
  | .table name query => ((rule.table name).bind query.run, ledger)

/-! ### Holders -/

/-- The rule in force, if any, and the count of rules put in force. -/
structure Holder where
  current : Option Rule := none
  generation : Nat := 0

namespace Holder

def publish (holder : Holder) : Option Rule → Bool × Holder
  | none => (false, holder)
  | some rule => (true, { current := some rule, generation := holder.generation + 1 })

/-- Builds a rule and puts it in force, or answers with the fault of the build. -/
def reload (holder : Holder) (factory : Factory) (config : RuleConfig) :
    Except Fault Unit × Holder :=
  match Rule.build factory holder.generation config with
  | .error fault => (.error fault, holder)
  | .ok rule => (.ok (), (holder.publish (some rule)).2)

/-- The calls a holder answers. -/
inductive Call where
  | publish (rule : Option Rule)
  | reload (factory : Factory) (config : RuleConfig)
  | current
  | generation

inductive Reply where
  | published (taken : Bool)
  | reloaded (outcome : Except Fault Unit)
  | current (rule : Option Rule)
  | generation (value : Nat)

def answer (holder : Holder) : Call → Reply × Holder
  | .publish rule =>
    let (taken, holder) := holder.publish rule
    (.published taken, holder)
  | .reload factory config =>
    let (outcome, holder) := holder.reload factory config
    (.reloaded outcome, holder)
  | .current => (.current holder.current, holder)
  | .generation => (.generation holder.generation, holder)

def run (holder : Holder) : List Call → List Reply × Holder
  | [] => ([], holder)
  | call :: rest =>
    let (reply, next) := holder.answer call
    let (replies, last) := next.run rest
    (reply :: replies, last)

end Holder

end ColumnCrypt

/-! ### Algorithms of a session -/

namespace ColumnCrypt.Session

inductive FactoryChoice where
  | registry
  | fixed
deriving DecidableEq, Repr

/-- The standard algorithms: a type and the kind registered under it. -/
def standardAlgorithms : List (String × AlgorithmKind) :=
  [("AES", .markingCipher), ("BATCH", .batchCountingCipher), ("MD5", .assistedQuery),
   ("ASSIST", .assistedQuery), ("LIKE", .likeQuery), ("CHAR_DIGEST_LIKE", .likeQuery),
   ("DUAL", .dual), ("BROKEN", .unavailableCipher), ("BROKEN_DIGEST", .unavailableAssistedQuery),
   ("BROKEN_LIKE", .unavailableLikeQuery), ("MISCONFIGURED", .keyedCipher),
   ("EMPTY", .emptyInstance), ("STRICT", .refusing), ("CTX", .echo),
   ("NULL_CIPHER", .withoutObject), ("UNTYPED", .untypedCipher)]

def registryOf (algorithms : List (String × AlgorithmKind)) : AlgorithmRegistry :=
  algorithms.foldl (fun registry (type, kind) => (registry.register type (kind.creator? type)).2)
    AlgorithmRegistry.empty

def fixedOf (algorithms : List (String × AlgorithmKind)) : FixedFactory :=
  algorithms.foldl (fun factory (type, kind) =>
    match kind.isFixed, kind.object? type (.shared type) "enc:" with
    | true, some made => factory.add type made
    | _, _ => factory) FixedFactory.empty

def factoryOf (choice : FactoryChoice) (algorithms : List (String × AlgorithmKind)) : Factory :=
  match choice with
  | .registry => (registryOf algorithms).toFactory
  | .fixed => (fixedOf algorithms).toFactory

def classifyObject (registry : CapabilityRegistry) (name type : String) (kind : AlgorithmKind) :
    Option CapabilityRegistry :=
  (kind.object? type (.shared type) "enc:").map (registry.classify name)

/-! ### Sessions with a holder -/

inductive HolderStep where
  | call (request : Holder.Call)
  | ask (query : Except String RuleQuery)

inductive HolderReply where
  | reloaded (outcome : Except Fault Unit) (generation : Nat)
  | published (taken : Bool) (generation : Nat)
  | generation (value : Nat)
  | current (rule : Option Rule)
  | answered (answer : Except Fault Answer) (usage : List Usage)
  | noRule
  | unreadable (reason : String)

def HolderReply.ofReply (generation : Nat) : Holder.Reply → HolderReply
  | .published taken => .published taken generation
  | .reloaded outcome => .reloaded outcome generation
  | .current rule => .current rule
  | .generation value => .generation value

structure HolderState where
  holder : Holder := {}
  ledger : Ledger := Ledger.empty

/-- Takes one step: a call goes to the holder and leaves the ledger as it was; a question is
answered by the rule in force, and while none is in force it is not even read. -/
def HolderStep.run (state : HolderState) : HolderStep → HolderReply × HolderState
  | .call request =>
    let (reply, holder) := state.holder.answer request
    (.ofReply holder.generation reply, { state with holder })
  | .ask query =>
    match state.holder.current, query with
    | none, _ => (.noRule, state)
    | some _, .error reason => (.unreadable reason, state)
    | some rule, .ok query =>
      let (answer, ledger) := query.run rule state.ledger
      (.answered answer (rule.usage ledger), { state with ledger })

def HolderStep.call? : HolderStep → Option Holder.Call
  | .call request => some request
  | .ask _ => none

def HolderState.run (state : HolderState) : List HolderStep → List HolderReply × HolderState
  | [] => ([], state)
  | step :: rest =>
    let (reply, next) := step.run state
    let (replies, last) := next.run rest
    (reply :: replies, last)

end ColumnCrypt.Session
