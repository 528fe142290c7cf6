import ColumnCrypt.Loader
import ColumnCrypt.Proofs.Build

/-!
Which documents load as rule configurations.

Each reader of the loader succeeds exactly when its part of the tree has its shape, one lemma per
reader, so a tree reads exactly when it is a `RuleDocument`, and a section with bad encryptors
reports them (`loads_exactly_rule_documents`).
-/

namespace ColumnCrypt.Loader

open Yaml

def TextKey : Node → Prop
  | .null _ | .scalar .. => True
  | _ => False

/-- A mapping whose keys read as text and whose values pass a check. -/
def MappingOf (valid : Node → Prop) : Node → Prop
  | .mapping entries _ => ∀ entry ∈ entries, TextKey entry.1 ∧ valid entry.2
  | _ => False

/-- A field that is absent, null, or present and passing a check. -/
def AbsentOr (valid : Node → Prop) (node : Option Node) : Prop :=
  node = none ∨ (∃ mark, node = some (.null mark)) ∨ ∃ present, node = some present ∧ valid present

def FilledScalar (node : Option Node) : Prop :=
  ∃ text mark, node = some (.scalar text mark) ∧ text ≠ ""

def ItemShape (node : Node) : Prop :=
  MappingOf (fun _ => True) node ∧ AbsentOr (·.isScalar) (node.get? "name") ∧
    FilledScalar (node.get? "encryptor_name")

def ColumnShape (node : Node) : Prop :=
  MappingOf (fun _ => True) node ∧ (∃ cipher, node.get? "cipher" = some cipher ∧ ItemShape cipher) ∧
    AbsentOr ItemShape (node.get? "assisted_query") ∧ AbsentOr ItemShape (node.get? "like_query")

def TableShape (node : Node) : Prop :=
  MappingOf (fun _ => True) node ∧ AbsentOr (MappingOf ColumnShape) (node.get? "columns")

def EncryptorShape (node : Node) : Prop :=
  MappingOf (fun _ => True) node ∧ FilledScalar (node.get? "type") ∧
    AbsentOr (MappingOf (·.isScalar)) (node.get? "props")

def SectionShape (node : Node) : Prop :=
  MappingOf (fun _ => True) node ∧ AbsentOr (MappingOf EncryptorShape) (node.get? "encryptors") ∧
    AbsentOr (MappingOf TableShape) (node.get? "tables")

/-- A rule document: a root mapping with exactly one of the sections `encrypt` and
`compatible_encrypt`, of the shape of a rule section. -/
def RuleDocument (root : Node) : Prop :=
  (∃ entries mark, root = .mapping entries mark) ∧
    ((∃ rules, root.get? "encrypt" = some rules ∧ root.get? "compatible_encrypt" = none ∧
        SectionShape rules) ∨
      (∃ rules, root.get? "compatible_encrypt" = some rules ∧ root.get? "encrypt" = none ∧
        SectionShape rules))

theorem forM_eq_ok_iff {α ε : Type} {check : α → Except ε Unit} {items : List α} :
    items.forM check = .ok () ↔ ∀ item ∈ items, check item = .ok () := by
  induction items with
  | nil => simp [List.forM, pure, Except.pure]
  | cons item rest ih =>
    simp only [List.forM, except_bind_eq_ok, ih, List.forall_mem_cons]
    constructor
    · rintro ⟨_, checked, others⟩
      exact ⟨checked, others⟩
    · rintro ⟨checked, others⟩
      exact ⟨(), checked, others⟩

theorem mapM_ok_iff {α β ε : Type} {read : α → Except ε β} {items : List α} :
    (∃ results, items.mapM read = .ok results) ↔
      ∀ item ∈ items, ∃ result, read item = .ok result := by
  induction items with
  | nil => simp [pure, Except.pure]
  | cons item rest ih =>
    simp only [List.mapM_cons, except_bind_eq_ok, except_pure_eq_ok, List.forall_mem_cons, ← ih]
    constructor
    · rintro ⟨_, first, readFirst, others, readRest, -⟩
      exact ⟨⟨first, readFirst⟩, others, readRest⟩
    · rintro ⟨⟨first, readFirst⟩, others, readRest⟩
      exact ⟨_, first, readFirst, others, readRest, rfl⟩

/-- A loop whose steps pass or fail by the item alone, whatever was gathered before, succeeds
exactly when every item passes. -/
theorem foldlM_ok_iff {σ α ε : Type} {step : σ → α → Except ε σ} (passes : α → Prop)
    (stepOk : ∀ state item, (∃ next, step state item = .ok next) ↔ passes item)
    {items : List α} {start : σ} :
    (∃ result, items.foldlM step start = .ok result) ↔ ∀ item ∈ items, passes item := by
  induction items generalizing start with
  | nil => simp [pure, Except.pure]
  | cons item rest ih =>
    simp only [List.foldlM_cons, except_bind_eq_ok, List.forall_mem_cons]
    constructor
    · rintro ⟨result, next, stepped, ran⟩
      exact ⟨(stepOk start item).mp ⟨next, stepped⟩, ih.mp ⟨result, ran⟩⟩
    · rintro ⟨first, others⟩
      obtain ⟨next, stepped⟩ := (stepOk start item).mpr first
      obtain ⟨result, ran⟩ := ih.mpr others
      exact ⟨result, next, stepped, ran⟩

theorem keyText_ok_iff (key : Node) : (∃ text, keyText key = .ok text) ↔ TextKey key := by
  cases key <;> simp [keyText, Node.keyText, TextKey]

theorem checkKeys_ok_iff {entries : List (Node × Node)} :
    (∃ checked, checkKeys entries = .ok checked) ↔ ∀ entry ∈ entries, TextKey entry.1 := by
  constructor
  · rintro ⟨_, checked⟩
    rw [checkKeys, forM_eq_ok_iff] at checked
    intro entry member
    rw [← keyText_ok_iff]
    simpa using checked entry member
  · intro keys
    refine ⟨(), ?_⟩
    rw [checkKeys, forM_eq_ok_iff]
    intro entry member
    obtain ⟨text, read⟩ := (keyText_ok_iff entry.1).mpr (keys entry member)
    simp [read]

theorem mappingOf_true_iff {node : Node} :
    MappingOf (fun _ => True) node ↔
      ∃ entries, node.entries? = some entries ∧ ∃ checked, checkKeys entries = .ok checked := by
  cases node <;> simp [MappingOf, Node.entries?, checkKeys_ok_iff]

theorem readScalar_eq_ok_iff {node : Option Node} {place text : String} :
    readScalar node place = .ok text ↔
      ((node = none ∨ ∃ mark, node = some (.null mark)) ∧ text = "") ∨
        ∃ mark, node = some (.scalar text mark) := by
  rcases node with _ | (_ | _ | _ | _) <;> simp [readScalar, eq_comm]

theorem exists_readScalar_iff (node : Option Node) (place : String) :
    (∃ text, readScalar node place = .ok text) ↔ AbsentOr (·.isScalar) node := by
  simp only [readScalar_eq_ok_iff, AbsentOr]
  rcases node with _ | (_ | _ | _ | _) <;> simp [Node.isScalar]

theorem filled_readScalar_iff (node : Option Node) (place : String) :
    (∃ text, readScalar node place = .ok text ∧ text ≠ "") ↔ FilledScalar node := by
  simp only [readScalar_eq_ok_iff, FilledScalar]
  rcases node with _ | (_ | _ | _ | _) <;> simp

@[simp] theorem except_throw_eq_error {ε α : Type} (fault : ε) :
    (throw fault : Except ε α) = .error fault := rfl

theorem readItem_ok_iff (node : Node) (place : String) :
    (∃ item, readItem node place = .ok item) ↔ ItemShape node := by
  rw [ItemShape, mappingOf_true_iff, ← exists_readScalar_iff _ (place ++ ".name"),
    ← filled_readScalar_iff _ (place ++ ".encryptor_name")]
  cases node with
  | mapping entries mark => simp [readItem, Node.entries?, ite_eq_iff]
  | _ => simp [readItem, Node.entries?]

theorem readOptionalItem_ok_iff (node : Option Node) (place : String) :
    (∃ item, readOptionalItem node place = .ok item) ↔ AbsentOr ItemShape node := by
  rcases node with _ | (_ | _ | _ | _)
  · simp [readOptionalItem, AbsentOr]
  · simp [readOptionalItem, isAbsent, AbsentOr]
  all_goals simpa [readOptionalItem, isAbsent, AbsentOr] using readItem_ok_iff _ place

theorem readColumn_ok_iff (name : String) (node : Node) (place : String) :
    (∃ column, readColumn name node place = .ok column) ↔ ColumnShape node := by
  rw [ColumnShape, mappingOf_true_iff,
    ← readOptionalItem_ok_iff (node.get? "assisted_query") (place ++ ".assisted_query"),
    ← readOptionalItem_ok_iff (node.get? "like_query") (place ++ ".like_query")]
  simp only [← readItem_ok_iff _ (place ++ ".cipher")]
  cases node with
  | mapping entries mark =>
    cases cipherFound : (Node.mapping entries mark).get? "cipher" with
    | none => simp [readColumn, Node.entries?, cipherFound]
    | some cipher => simp [readColumn, Node.entries?, cipherFound]
  | _ => simp [readColumn, Node.entries?]

theorem readColumnEntry_ok_iff (key value : Node) (place : String) :
    (∃ column name, keyText key = .ok name ∧ readColumn name value (place ++ name) = .ok column) ↔
      TextKey key ∧ ColumnShape value := by
  rw [← keyText_ok_iff]
  constructor
  · rintro ⟨column, name, named, built⟩
    exact ⟨⟨name, named⟩, (readColumn_ok_iff name value (place ++ name)).mp ⟨column, built⟩⟩
  · rintro ⟨⟨name, named⟩, shape⟩
    obtain ⟨column, built⟩ := (readColumn_ok_iff name value (place ++ name)).mpr shape
    exact ⟨column, name, named, built⟩

theorem readTable_ok_iff (entry : Node × Node) :
    (∃ table, readTable entry = .ok table) ↔ TextKey entry.1 ∧ TableShape entry.2 := by
  obtain ⟨key, node⟩ := entry
  rw [TableShape, mappingOf_true_iff, ← keyText_ok_iff]
  cases named : keyText key with
  | error mark => simp [readTable, named]
  | ok name =>
    cases node with
    | mapping entries mark =>
      rcases columnsFound : (Node.mapping entries mark).get? "columns" with
        _ | (_ | _ | _ | ⟨columnEntries, columnsMark⟩) <;>
        simp [readTable, named, columnsFound, AbsentOr, isAbsent, Node.entries?, MappingOf, mapM_ok_iff, readColumnEntry_ok_iff]
    | _ => simp [readTable, named, Node.entries?]

theorem readTables_ok_iff (node : Option Node) :
    (∃ tables, readTables node = .ok tables) ↔ AbsentOr (MappingOf TableShape) node := by
  rcases node with _ | (_ | _ | _ | ⟨entries, mark⟩) <;>
    simp [readTables, isAbsent, AbsentOr, MappingOf, Node.entries?, mapM_ok_iff, readTable_ok_iff]

theorem readProperties_ok_iff (node : Option Node) (place : String) :
    (∃ properties, readProperties node place = .ok properties) ↔
      AbsentOr (MappingOf (·.isScalar)) node := by
  rcases node with _ | (_ | _ | _ | ⟨entries, mark⟩)
  all_goals simp [readProperties, isAbsent, AbsentOr, MappingOf, Node.entries?]
  refine (foldlM_ok_iff (fun entry => TextKey entry.1 ∧ entry.2.isScalar = true)
    fun properties entry => ?_).trans (by simp)
  obtain ⟨key, value⟩ := entry
  rw [← keyText_ok_iff]
  cases value <;> simp [Node.isScalar]

theorem readEncryptors_ok_iff (node : Option Node) :
    (∃ encryptors, readEncryptors node = .ok encryptors) ↔
      AbsentOr (MappingOf EncryptorShape) node := by
  rcases node with _ | (_ | _ | _ | ⟨entries, mark⟩)
  all_goals simp [readEncryptors, isAbsent, AbsentOr, MappingOf, Node.entries?]
  refine (foldlM_ok_iff (fun entry => TextKey entry.1 ∧ EncryptorShape entry.2)
    fun encryptors entry => ?_).trans (by simp)
  obtain ⟨key, value⟩ := entry
  rw [← keyText_ok_iff]
  cases named : keyText key with
  | error mark => simp
  | ok name =>
    rw [EncryptorShape, mappingOf_true_iff,
      ← filled_readScalar_iff _ ("encryptors." ++ name ++ ".type"),
      ← readProperties_ok_iff _ ("encryptors." ++ name)]
    cases value with
    | mapping fields fieldsMark => simp [Node.entries?, ite_eq_iff, ← and_assoc]
    | _ => simp [Node.entries?]

theorem readSection_ok_iff (node : Node) (sectionName : String) :
    (∃ config, readSection node sectionName = .ok config) ↔ SectionShape node := by
  rw [SectionShape, mappingOf_true_iff, ← readEncryptors_ok_iff, ← readTables_ok_iff]
  cases node with
  | mapping entries mark => simp [readSection, Node.entries?, ← and_assoc]
  | _ => simp [readSection, Node.entries?]

theorem readSection_of_encryptors_error {node : Node} {sectionName : String} {fault : RuleFault}
    (keyed : MappingOf (fun _ => True) node)
    (refused : readEncryptors (node.get? "encryptors") = .error fault) :
    readSection node sectionName = .error fault := by
  obtain ⟨entries, listed, _, checked⟩ := mappingOf_true_iff.mp keyed
  cases node with
  | mapping entries' mark =>
    simp only [Node.entries?, Option.some.injEq] at listed
    subst listed
    simp [readSection, Node.entries?, checked, refused, bind, Except.bind]
  | _ => simp [Node.entries?] at listed

theorem readRoot_ok_iff (root : Node) :
    (∃ config, readRoot root = .ok config) ↔ RuleDocument root := by
  cases root with
  | mapping entries mark =>
    -- one case for each of the two sections present or absent
    cases current : (Node.mapping entries mark).get? "encrypt" <;>
      cases legacy : (Node.mapping entries mark).get? "compatible_encrypt" <;>
      simp [readRoot, Node.entries?, RuleDocument, current, legacy, readSection_ok_iff]
  | _ => simp [readRoot, Node.entries?, RuleDocument]

theorem loadText_ok_iff (source : TextSource) (text : String) :
    (∃ config, loadText source text = .ok config) ↔
      ∃ root, Yaml.parse text = .ok root ∧ RuleDocument root := by
  cases parsed : Yaml.parse text with
  | error problem => simp [loadText, parsed]
  | ok root =>
    simp only [Except.ok.injEq, exists_eq_left', ← readRoot_ok_iff]
    cases read : readRoot root <;> simp [loadText, parsed, read]

/-- A node tree reads as a rule configuration exactly when it is a rule document: a root
mapping with exactly one of the sections `encrypt` and `compatible_encrypt`, whose encryptors
have filled scalar types and scalar properties, whose tables, columns and column items are
mappings, each column with a cipher item, each item with a filled scalar encryptor name and a
scalar name if any, every field looked up by the first entry of its key, and every key of every
mapping walked reading as text. So a text loads exactly when it parses to a rule document. A
section with text keys whose encryptors fail to read reports that fault, whatever its tables. -/
theorem loads_exactly_rule_documents (source : TextSource) (text : String) :
    (∀ root : Node, (∃ config, readRoot root = .ok config) ↔ RuleDocument root) ∧
    ((∃ config, loadText source text = .ok config) ↔
      ∃ root, Yaml.parse text = .ok root ∧ RuleDocument root) ∧
    ∀ (rules : Node) (sectionName : String) (fault : RuleFault),
      MappingOf (fun _ => True) rules → readEncryptors (rules.get? "encryptors") = .error fault →
        readSection rules sectionName = .error fault :=
  ⟨readRoot_ok_iff, loadText_ok_iff source text, fun _ _ _ keyed refused =>
    readSection_of_encryptors_error keyed refused⟩

end ColumnCrypt.Loader
