import ColumnCrypt.Rule

/-!
How a rule dispatches a single value: which lookup fails with which fault and counts nothing,
and which algorithm is called, counting one call (`single_value_dispatch`).
-/

namespace ColumnCrypt

namespace Table

variable {table : Table} {column : Column} {logic : String}

theorem column_of_column?_eq_none (missing : table.column? logic = none) :
    table.column logic = .error (.columnNotFound table.name logic) := by
  simp [Table.column, missing]

theorem column_of_column?_eq_some (found : table.column? logic = some column) :
    table.column logic = .ok column := by
  simp [Table.column, found]

theorem findAssistedQuery?_eq_none_iff :
    table.findAssistedQuery? logic = none ↔
      table.column? logic = none ∨
        ∃ column, table.column? logic = some column ∧ column.assistedQuery = none := by
  unfold Table.findAssistedQuery?
  cases table.column? logic with
  | none => simp
  | some column => simp

theorem findLikeQuery?_eq_none_iff :
    table.findLikeQuery? logic = none ↔
      table.column? logic = none ∨
        ∃ column, table.column? logic = some column ∧ column.likeQuery = none := by
  unfold Table.findLikeQuery?
  cases table.column? logic with
  | none => simp
  | some column => simp

theorem findAssistedQuery?_of_column?_eq_some (found : table.column? logic = some column) :
    table.findAssistedQuery? logic = column.assistedQuery.map (·.handle) := by
  simp [Table.findAssistedQuery?, found]

theorem findLikeQuery?_of_column?_eq_some (found : table.column? logic = some column) :
    table.findLikeQuery? logic = column.likeQuery.map (·.handle) := by
  simp [Table.findLikeQuery?, found]

end Table

namespace Rule

variable {rule : Rule} {table : Table} {column : Column} {name logic : String}

theorem column_of_table?_eq_none (missing : rule.table? name = none) (logic : String) :
    rule.column name logic = .error (.tableNotFound name) := by
  simp [Rule.column, Rule.table, missing, bind, Except.bind]

theorem column_of_table?_eq_some (found : rule.table? name = some table) (logic : String) :
    rule.column name logic = table.column logic := by
  simp [Rule.column, Rule.table, found, bind, Except.bind]

theorem assistedQuery_of_table?_eq_none (missing : rule.table? name = none) (logic : String) :
    rule.assistedQuery name logic = .error (.tableNotFound name) := by
  simp [assistedQuery, Rule.table, missing, bind, Except.bind]

theorem assistedQuery_of_table?_eq_some (found : rule.table? name = some table) (logic : String) :
    rule.assistedQuery name logic =
      match table.findAssistedQuery? logic with
      | some handle => .ok handle
      | none => .error (.missingEncryptor .assistedQuery name logic) := by
  simp only [assistedQuery, Rule.table, found, bind, Except.bind]
  rfl

theorem likeQuery_of_table?_eq_none (missing : rule.table? name = none) (logic : String) :
    rule.likeQuery name logic = .error (.tableNotFound name) := by
  simp [likeQuery, Rule.table, missing, bind, Except.bind]

theorem likeQuery_of_table?_eq_some (found : rule.table? name = some table) (logic : String) :
    rule.likeQuery name logic =
      match table.findLikeQuery? logic with
      | some handle => .ok handle
      | none => .error (.missingEncryptor .likeQuery name logic) := by
  simp only [likeQuery, Rule.table, found, bind, Except.bind]
  rfl

theorem column_eq_ok_iff :
    rule.column name logic = .ok column ↔
      ∃ table, rule.table? name = some table ∧ table.column? logic = some column := by
  cases found : rule.table? name with
  | none => simp [column_of_table?_eq_none found]
  | some table =>
    rw [column_of_table?_eq_some found]
    cases present : table.column? logic with
    | none => simp [Table.column_of_column?_eq_none present, present]
    | some located => simp [Table.column_of_column?_eq_some present, present]

theorem assistedQuery_eq_ok_iff {handle : Handle AssistedQuery} :
    rule.assistedQuery name logic = .ok handle ↔
      ∃ table, rule.table? name = some table ∧ table.findAssistedQuery? logic = some handle := by
  cases found : rule.table? name with
  | none => simp [assistedQuery_of_table?_eq_none found]
  | some table =>
    rw [assistedQuery_of_table?_eq_some found]
    cases present : table.findAssistedQuery? logic with
    | none => simp [present]
    | some located => simp [present]

theorem likeQuery_eq_ok_iff {handle : Handle LikeQuery} :
    rule.likeQuery name logic = .ok handle ↔
      ∃ table, rule.table? name = some table ∧ table.findLikeQuery? logic = some handle := by
  cases found : rule.table? name with
  | none => simp [likeQuery_of_table?_eq_none found]
  | some table =>
    rw [likeQuery_of_table?_eq_some found]
    cases present : table.findLikeQuery? logic with
    | none => simp [present]
    | some located => simp [present]

theorem failed_callOnce (operation : Operation) (context : CallContext) (origin : Origin)
    (counts : Bool) (call : Value → Except String Value) (ledger : Ledger) (value : Value) :
    failed operation context (callOnce origin counts call ledger value) =
      ((call value).mapError (.algorithmFailed operation context.table context.column),
        ledger.recordCall origin counts) := by
  unfold callOnce
  cases call value with
  | error what => rfl
  | ok result => rfl

variable {context : CallContext} {ledger : Ledger} {value : Value}

theorem encrypt_of_column_eq_ok
    (found : rule.column context.table context.column = .ok column) :
    rule.encrypt ledger context value =
      ((column.cipher.handle.algorithm.encrypt context value).mapError
          (.algorithmFailed .encrypt context.table context.column),
        ledger.recordCall column.cipher.handle.origin column.cipher.handle.algorithm.counts) := by
  simp only [encrypt, found]
  exact failed_callOnce _ _ _ _ _ _ _

theorem decrypt_of_column_eq_ok
    (found : rule.column context.table context.column = .ok column) :
    rule.decrypt ledger context value =
      ((column.cipher.handle.algorithm.decrypt context value).mapError
          (.algorithmFailed .decrypt context.table context.column),
        ledger.recordCall column.cipher.handle.origin column.cipher.handle.algorithm.counts) := by
  simp only [decrypt, found]
  exact failed_callOnce _ _ _ _ _ _ _

theorem assistedToken_of_assistedQuery_eq_ok {handle : Handle AssistedQuery}
    (found : rule.assistedQuery context.table context.column = .ok handle)
    (present : value.isNull = false) :
    rule.assistedToken ledger context value =
      ((handle.algorithm.token context value).mapError
          (.algorithmFailed .assistedQuery context.table context.column),
        ledger.recordCall handle.origin handle.algorithm.counts) := by
  simp only [assistedToken, present, found, Bool.false_eq_true, if_false]
  exact failed_callOnce _ _ _ _ _ _ _

theorem likeToken_of_likeQuery_eq_ok {handle : Handle LikeQuery}
    (found : rule.likeQuery context.table context.column = .ok handle)
    (present : value.isNull = false) :
    rule.likeToken ledger context value =
      ((handle.algorithm.token context value).mapError
          (.algorithmFailed .likeQuery context.table context.column),
        ledger.recordCall handle.origin handle.algorithm.counts) := by
  simp only [likeToken, present, found, Bool.false_eq_true, if_false]
  exact failed_callOnce _ _ _ _ _ _ _

theorem encryptBatch_of_column_eq_ok
    (found : rule.column context.table context.column = .ok column) (values : List Value) :
    rule.encryptBatch ledger context values =
      failed .batchEncrypt context
        (callEach column.cipher.handle.origin column.cipher.handle.algorithm.counts false
          (column.cipher.handle.algorithm.encrypt context)
          (if column.cipher.handle.algorithm = .batchCounting then
            ledger.recordBatch column.cipher.handle.origin values.length
          else ledger)
          values) := by
  simp only [encryptBatch, found]

theorem assistedTokens_of_assistedQuery_eq_ok {handle : Handle AssistedQuery}
    (found : rule.assistedQuery context.table context.column = .ok handle) (values : List Value) :
    rule.assistedTokens ledger context values =
      failed .assistedQuery context
        (callEach handle.origin handle.algorithm.counts true (handle.algorithm.token context)
          ledger values) := by
  simp only [assistedTokens, found]

theorem likeTokens_of_likeQuery_eq_ok {handle : Handle LikeQuery}
    (found : rule.likeQuery context.table context.column = .ok handle) (values : List Value) :
    rule.likeTokens ledger context values =
      failed .likeQuery context
        (callEach handle.origin handle.algorithm.counts true (handle.algorithm.token context)
          ledger values) := by
  simp only [likeTokens, found]

/-- The single-value operations check in a fixed order, and each outcome is exact. Encrypting and
decrypting look up the table, then the column, then call the cipher on the value, NULL included;
search tokens answer NULL for NULL before any lookup, then look up the table, then the column's
algorithm of the role. Every failed lookup leaves the ledger as it was; a call counts once on its
object and turns the algorithm's failure message into a fault naming the operation, the table
as the caller wrote it, and the column. -/
theorem single_value_dispatch (rule : Rule) (ledger : Ledger) (context : CallContext)
    (value : Value) :
    (rule.table? context.table = none →
      rule.encrypt ledger context value = (.error (.tableNotFound context.table), ledger) ∧
      rule.decrypt ledger context value = (.error (.tableNotFound context.table), ledger)) ∧
    (∀ table, rule.table? context.table = some table → table.column? context.column = none →
      rule.encrypt ledger context value =
        (.error (.columnNotFound table.name context.column), ledger) ∧
      rule.decrypt ledger context value =
        (.error (.columnNotFound table.name context.column), ledger)) ∧
    (∀ table column, rule.table? context.table = some table →
      table.column? context.column = some column →
      rule.encrypt ledger context value =
        ((column.cipher.handle.algorithm.encrypt context value).mapError
            (.algorithmFailed .encrypt context.table context.column),
          ledger.recordCall column.cipher.handle.origin column.cipher.handle.algorithm.counts) ∧
      rule.decrypt ledger context value =
        ((column.cipher.handle.algorithm.decrypt context value).mapError
            (.algorithmFailed .decrypt context.table context.column),
          ledger.recordCall column.cipher.handle.origin column.cipher.handle.algorithm.counts)) ∧
    rule.assistedToken ledger context .null = (.ok .null, ledger) ∧
    rule.likeToken ledger context .null = (.ok .null, ledger) ∧
    (value.isNull = false → rule.table? context.table = none →
      rule.assistedToken ledger context value = (.error (.tableNotFound context.table), ledger) ∧
      rule.likeToken ledger context value = (.error (.tableNotFound context.table), ledger)) ∧
    (∀ table, value.isNull = false → rule.table? context.table = some table →
      ((table.column? context.column = none ∨
          ∃ column, table.column? context.column = some column ∧ column.assistedQuery = none) →
        rule.assistedToken ledger context value =
          (.error (.missingEncryptor .assistedQuery context.table context.column), ledger)) ∧
      ((table.column? context.column = none ∨
          ∃ column, table.column? context.column = some column ∧ column.likeQuery = none) →
        rule.likeToken ledger context value =
          (.error (.missingEncryptor .likeQuery context.table context.column), ledger))) ∧
    (∀ table column, value.isNull = false → rule.table? context.table = some table →
      table.column? context.column = some column →
      (∀ binding, column.assistedQuery = some binding →
        rule.assistedToken ledger context value =
          ((binding.handle.algorithm.token context value).mapError
              (.algorithmFailed .assistedQuery context.table context.column),
            ledger.recordCall binding.handle.origin binding.handle.algorithm.counts)) ∧
      (∀ binding, column.likeQuery = some binding →
        rule.likeToken ledger context value =
          ((binding.handle.algorithm.token context value).mapError
              (.algorithmFailed .likeQuery context.table context.column),
            ledger.recordCall binding.handle.origin binding.handle.algorithm.counts))) := by
  refine ⟨?_, ?_, ?_, assistedToken_null ledger, likeToken_null ledger, ?_, ?_, ?_⟩
  · intro missing
    have unfound := column_of_table?_eq_none missing context.column
    exact ⟨encrypt_of_column_eq_error unfound ledger value,
      decrypt_of_column_eq_error unfound ledger value⟩
  · intro table found missing
    have unfound : rule.column context.table context.column =
        .error (.columnNotFound table.name context.column) := by
      rw [column_of_table?_eq_some found, Table.column_of_column?_eq_none missing]
    exact ⟨encrypt_of_column_eq_error unfound ledger value,
      decrypt_of_column_eq_error unfound ledger value⟩
  · intro table column found present
    have located : rule.column context.table context.column = .ok column := by
      rw [column_of_table?_eq_some found, Table.column_of_column?_eq_some present]
    exact ⟨encrypt_of_column_eq_ok located, decrypt_of_column_eq_ok located⟩
  · intro notNull missing
    exact ⟨assistedToken_of_assistedQuery_eq_error
        (assistedQuery_of_table?_eq_none missing context.column) ledger value notNull,
      likeToken_of_likeQuery_eq_error
        (likeQuery_of_table?_eq_none missing context.column) ledger value notNull⟩
  · intro table notNull found
    constructor
    · intro unbound
      have missing : rule.assistedQuery context.table context.column =
          .error (.missingEncryptor .assistedQuery context.table context.column) := by
        rw [assistedQuery_of_table?_eq_some found, Table.findAssistedQuery?_eq_none_iff.mpr unbound]
      exact assistedToken_of_assistedQuery_eq_error missing ledger value notNull
    · intro unbound
      have missing : rule.likeQuery context.table context.column =
          .error (.missingEncryptor .likeQuery context.table context.column) := by
        rw [likeQuery_of_table?_eq_some found, Table.findLikeQuery?_eq_none_iff.mpr unbound]
      exact likeToken_of_likeQuery_eq_error missing ledger value notNull
  · intro table column notNull found present
    constructor
    · intro binding bound
      have located : rule.assistedQuery context.table context.column = .ok binding.handle := by
        rw [assistedQuery_of_table?_eq_some found,
          Table.findAssistedQuery?_of_column?_eq_some present, bound]
        rfl
      exact assistedToken_of_assistedQuery_eq_ok located notNull
    · intro binding bound
      have located : rule.likeQuery context.table context.column = .ok binding.handle := by
        rw [likeQuery_of_table?_eq_some found, Table.findLikeQuery?_of_column?_eq_some present,
          bound]
        rfl
      exact likeToken_of_likeQuery_eq_ok located notNull

end Rule

end ColumnCrypt
