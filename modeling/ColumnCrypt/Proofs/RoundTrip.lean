import ColumnCrypt.Proofs.Build
import ColumnCrypt.Proofs.Dispatch
import ColumnCrypt.Session

/-!
Decrypting what a marking cipher encrypted.

The integer tag and the NULL sentinel are in band, so the round trip is exact on NULL, on every
64-bit integer and on the texts that are neither tagged nor marked into the sentinel, and on
nothing else; through a rule it holds under any spelling of the table's name, one value at a time
or element by element of a batch (`marking_round_trip`).
-/

namespace ColumnCrypt

namespace Text

theorem isLeadingBlank_of_isDigit {c : Char} (digit : c.isDigit) : isLeadingBlank c = false := by
  simp only [isLeadingBlank, Bool.or_eq_false_iff, decide_eq_false_iff_not]
  refine ⟨⟨⟨⟨⟨?_, ?_⟩, ?_⟩, ?_⟩, ?_⟩, ?_⟩ <;> rintro rfl <;> exact absurd digit (by decide)

theorem leadingDigits_of_isDigit {digits : List Char} (allDigits : ∀ c ∈ digits, c.isDigit)
    (value count : Nat) :
    leadingDigits digits value count =
      (digits.foldl (fun value c => value * 10 + (c.toNat - '0'.toNat)) value,
        count + digits.length, []) := by
  induction digits generalizing value count with
  | nil => rfl
  | cons c digits ih =>
    have digit : c.isDigit := allDigits c (by simp)
    rw [leadingDigits, if_pos digit, ih (fun d member => allDigits d (by simp [member]))]
    simp only [List.foldl_cons, List.length_cons, Prod.mk.injEq, true_and, and_true]
    omega

theorem foldl_toDigits (n : Nat) :
    (Nat.toDigits 10 n).foldl (fun value c => value * 10 + (c.toNat - '0'.toNat)) 0 = n := by
  induction n using Nat.strongRecOn with
  | ind n ih =>
    rw [Nat.toDigits_eq_if (by decide)]
    split
    · simp [Nat.toNat_digitChar_sub_48_of_lt_ten ‹n < 10›]
    · -- the last digit is the remainder, the digits before it spell the quotient
      rw [List.foldl_append, ih (n / 10) (by omega)]
      simp [Nat.toNat_digitChar_sub_48_of_lt_ten (Nat.mod_lt n (by decide : 10 > 0))]
      omega

theorem exists_isDigit_head_toDigits (n : Nat) :
    ∃ first more, Nat.toDigits 10 n = first :: more ∧ first.isDigit := by
  obtain ⟨first, more, spelled⟩ := List.exists_cons_of_ne_nil (@Nat.toDigits_ne_nil n 10)
  have leading : first ∈ Nat.toDigits 10 n := by simp [spelled]
  exact ⟨first, more, spelled, Nat.isDigit_of_mem_toDigits (by decide) (by decide) leading⟩

theorem leadingDigits_toDigits (n : Nat) :
    leadingDigits (Nat.toDigits 10 n) 0 0 = (n, (Nat.toDigits 10 n).length, []) := by
  rw [leadingDigits_of_isDigit (fun _ => Nat.isDigit_of_mem_toDigits (by decide) (by decide)),
    foldl_toDigits, Nat.zero_add]

theorem leadingInt64?_of_toDigits {text : String} {n : Nat}
    (spelled : text.toList = Nat.toDigits 10 n) : leadingInt64? text = toInt64? n := by
  obtain ⟨first, more, split, digit⟩ := exists_isDigit_head_toDigits n
  unfold leadingInt64?
  rw [spelled, split, List.dropWhile_cons_of_neg (by simp [isLeadingBlank_of_isDigit digit])]
  dsimp only
  split
  · rename_i minus
    obtain ⟨rfl, -⟩ := List.cons.inj minus
    exact absurd digit (by decide)
  · rename_i plus
    obtain ⟨rfl, -⟩ := List.cons.inj plus
    exact absurd digit (by decide)
  · simp [← split, leadingDigits_toDigits]

theorem leadingInt64?_of_minus_toDigits {text : String} {n : Nat}
    (spelled : text.toList = '-' :: Nat.toDigits 10 n) :
    leadingInt64? text = toInt64? (-(n : Int)) := by
  unfold leadingInt64?
  simp [spelled, List.dropWhile_cons_of_neg, isLeadingBlank, leadingDigits_toDigits]

theorem toList_decimal_of_nonneg {n : Int64} (nonneg : 0 ≤ n.toInt) :
    (decimal n).toList = Nat.toDigits 10 n.toInt.toNat := by
  rw [decimal, Int.toString_eq_repr, Int.repr_eq_if, if_pos nonneg, Nat.toList_repr]

theorem toList_decimal_of_neg {n : Int64} (negative : n.toInt < 0) :
    (decimal n).toList = '-' :: Nat.toDigits 10 (-n.toInt).toNat := by
  rw [decimal, Int.toString_eq_repr, Int.repr_eq_if, if_neg (by omega), String.toList_append,
    Nat.toList_repr]
  rfl

theorem leadingInt64?_decimal (n : Int64) : leadingInt64? (decimal n) = some n := by
  have inRange : -9223372036854775808 ≤ n.toInt ∧ n.toInt < 9223372036854775808 :=
    ⟨n.le_toInt, n.toInt_lt⟩
  by_cases nonneg : 0 ≤ n.toInt
  · rw [leadingInt64?_of_toDigits (toList_decimal_of_nonneg nonneg), Int.toNat_of_nonneg nonneg,
      toInt64?, if_pos inRange, Int64.ofInt_toInt]
  · rw [leadingInt64?_of_minus_toDigits (toList_decimal_of_neg (by omega)),
      Int.toNat_of_nonneg (by omega), Int.neg_neg, toInt64?, if_pos inRange, Int64.ofInt_toInt]

theorem exists_isDigit_mem_decimal (n : Int64) : ∃ c ∈ (decimal n).toList, c.isDigit := by
  by_cases nonneg : 0 ≤ n.toInt
  · obtain ⟨first, more, split, digit⟩ := exists_isDigit_head_toDigits n.toInt.toNat
    refine ⟨first, ?_, digit⟩
    rw [toList_decimal_of_nonneg nonneg, split]
    exact List.mem_cons_self
  · obtain ⟨first, more, split, digit⟩ := exists_isDigit_head_toDigits (-n.toInt).toNat
    refine ⟨first, ?_, digit⟩
    rw [toList_decimal_of_neg (by omega), split]
    exact List.mem_cons_of_mem _ List.mem_cons_self

end Text

namespace Algorithm

theorem afterLead_eq_some_iff {lead text rest : String} :
    afterLead lead text = some rest ↔ text = lead ++ rest := by
  unfold afterLead
  constructor
  · intro found
    split at found
    · rename_i leading
      cases found
      rw [← String.toList_inj, String.toList_append, String.toList_ofList, ← String.length_toList]
      exact (List.prefix_iff_eq_append.mp (List.isPrefixOf_iff_prefix.mp leading)).symm
    · cases found
  · rintro rfl
    simp [List.isPrefixOf_iff_prefix, ← String.length_toList]

theorem afterLead_append (lead rest : String) : afterLead lead (lead ++ rest) = some rest :=
  afterLead_eq_some_iff.mpr rfl

theorem afterLead_eq_none_iff {lead text : String} :
    afterLead lead text = none ↔ ¬ lead.toList <+: text.toList := by
  unfold afterLead
  split
  · rename_i leading
    simpa using List.isPrefixOf_iff_prefix.mp leading
  · rename_i notLeading
    simpa [List.isPrefixOf_iff_prefix] using notLeading

/-- The values that decrypting under a marker gets back from their encryption: NULL, every
integer, and every text that neither starts with the integer tag nor is marked into the NULL
sentinel. -/
def Recoverable (marker : String) : Value → Prop
  | .null => True
  | .int _ => True
  | .real _ => False
  | .text s => ¬ integerTag.toList <+: s.toList ∧ marker ++ s ≠ encryptedNull

instance (marker : String) : DecidablePred (Recoverable marker)
  | .null => inferInstanceAs (Decidable True)
  | .int _ => inferInstanceAs (Decidable True)
  | .real _ => inferInstanceAs (Decidable False)
  | .text _ => inferInstanceAs (Decidable (¬ _ ∧ _))

theorem unmark_encryptedNull (marker : String) :
    unmark marker (.text encryptedNull) = .ok .null := by
  simp [unmark]

theorem marked_int_ne_encryptedNull (marker : String) (n : Int64) :
    marker ++ integerTag ++ Text.decimal n ≠ encryptedNull := by
  intro same
  obtain ⟨c, member, digit⟩ := Text.exists_isDigit_mem_decimal n
  have inSentinel : c ∈ encryptedNull.toList := by
    rw [← same]
    simp [member]
  have noDigit : ∀ c ∈ encryptedNull.toList, c.isDigit = false := by simp [encryptedNull]
  simp [noDigit c inSentinel] at digit

theorem unmark_marked_int (marker : String) (n : Int64) :
    unmark marker (.text (marker ++ integerTag ++ Text.decimal n)) = .ok (.int n) := by
  simp only [unmark, if_neg (marked_int_ne_encryptedNull marker n)]
  simp only [String.append_assoc, afterLead_append, Text.leadingInt64?_decimal]

theorem unmark_marked_text_iff (marker s : String) :
    unmark marker (.text (marker ++ s)) = .ok (.text s) ↔
      ¬ integerTag.toList <+: s.toList ∧ marker ++ s ≠ encryptedNull := by
  by_cases sentinel : marker ++ s = encryptedNull
  · simp [unmark, sentinel]
  simp only [unmark, afterLead_append, ne_eq, sentinel, not_false_eq_true, and_true]
  cases tagged : afterLead integerTag s with
  | none => simpa using afterLead_eq_none_iff.mp tagged
  | some digits =>
    -- a text after the tag comes back as an integer or not at all
    have leading : integerTag.toList <+: s.toList := by
      rw [afterLead_eq_some_iff.mp tagged, String.toList_append]
      exact List.prefix_append _ _
    cases parsed : Text.leadingInt64? digits with
    | none => simp [leading, parsed]
    | some n => simp [leading, parsed]

end Algorithm

namespace Cipher

variable {cipher : Cipher} {marker : String}

theorem encrypt_of_marker? (marking : cipher.marker? = some marker) (context : CallContext)
    (value : Value) :
    cipher.encrypt context value =
      if value.isNull then .ok (.text Algorithm.encryptedNull)
      else .text <$> Algorithm.mark marker value := by
  cases cipher with
  | marking _ => cases marking; rfl
  | batchCounting => cases marking; rfl
  | dual | unavailable | echo | other _ _ => cases marking

theorem decrypt_of_marker? (marking : cipher.marker? = some marker) (context : CallContext) :
    cipher.decrypt context = Algorithm.unmark marker := by
  cases cipher with
  | marking _ => cases marking; rfl
  | batchCounting => cases marking; rfl
  | dual | unavailable | echo | other _ _ => cases marking

theorem decrypt_encrypt_iff (marking : cipher.marker? = some marker)
    (context context' : CallContext) (value : Value) :
    (∃ sealed, cipher.encrypt context value = .ok sealed ∧
        cipher.decrypt context' sealed = .ok value) ↔
      Algorithm.Recoverable marker value := by
  rw [decrypt_of_marker? marking, encrypt_of_marker? marking]
  cases value with
  | null => simp [Value.isNull, Algorithm.unmark_encryptedNull, Algorithm.Recoverable]
  | int n =>
    simp [Value.isNull, Algorithm.mark, Algorithm.unmark_marked_int, Algorithm.Recoverable]
  | real x => simp [Value.isNull, Algorithm.mark, Algorithm.Recoverable]
  | text s =>
    simp [Value.isNull, Algorithm.mark, Algorithm.unmark_marked_text_iff, Algorithm.Recoverable]

example : Algorithm.Recoverable "enc:" (.text "secret") ∧
    ¬ Algorithm.Recoverable "enc:" (.text "i:7") ∧
    ¬ Algorithm.Recoverable "" (.text "<encrypted-null>") := by
  decide

end Cipher

namespace Rule

variable {rule : Rule}

theorem table?_eq_of_lowerAscii_eq {name name' : String}
    (same : Text.lowerAscii name' = Text.lowerAscii name) :
    rule.table? name' = rule.table? name := by
  simp only [table?, same]

theorem column_eq_ok_of_lowerAscii_eq {name name' logic : String} {column : Column}
    (same : Text.lowerAscii name' = Text.lowerAscii name)
    (found : rule.column name logic = .ok column) :
    rule.column name' logic = .ok column := by
  rw [column_eq_ok_iff, table?_eq_of_lowerAscii_eq same]
  exact column_eq_ok_iff.mp found

theorem failed_fst_eq_ok {α : Type} {operation : Operation} {context : CallContext}
    {answer : Except String α × Ledger} {result : α} :
    (failed operation context answer).1 = .ok result ↔ answer.1 = .ok result := by
  obtain ⟨answer, ledger⟩ := answer
  cases answer <;> simp [failed]

theorem callEach_eq_ok {origin : Origin} {counts : Bool} {call : Value → Except String Value}
    {ledger : Ledger} {values results : List Value}
    (ran : (callEach origin counts false call ledger values).1 = .ok results) :
    List.Forall₂ (fun value result => call value = .ok result) values results := by
  induction values generalizing ledger results with
  | nil =>
    simp only [callEach, Except.ok.injEq] at ran
    subst ran
    exact .nil
  | cons value rest ih =>
    simp only [callEach, Bool.false_and, Bool.false_eq_true, if_false] at ran
    cases called : call value with
    | error what => simp [called] at ran
    | ok result =>
      simp only [called] at ran
      obtain ⟨answers, ranRest, rfl⟩ := except_map_eq_ok.mp ran
      exact .cons called (ih ranRest)

/-- What the round trip through a column whose cipher marks under `marker` gives, encrypting for
the table spelled `table` and decrypting for the table spelled `table'`, whatever database,
schema and counters the calls are given. -/
structure MarkingRoundTrip (rule : Rule) (table table' logic marker : String) : Prop where
  recovers_iff (ledger ledger' : Ledger) (database schema database' schema' : String)
      (value : Value) :
    (∃ sealed, (rule.encrypt ledger ⟨database, schema, table, logic⟩ value).1 = .ok sealed ∧
        (rule.decrypt ledger' ⟨database', schema', table', logic⟩ sealed).1 = .ok value) ↔
      Algorithm.Recoverable marker value
  real_refused (ledger : Ledger) (database schema : String) (x : Binary64) :
    (rule.encrypt ledger ⟨database, schema, table, logic⟩ (.real x)).1 =
      .error (.algorithmFailed .encrypt table logic "unsupported value type")
  batch_recovers (ledger ledger' : Ledger) (database schema database' schema' : String)
      (values sealed : List Value) :
    (rule.encryptBatch ledger ⟨database, schema, table, logic⟩ values).1 = .ok sealed →
      List.Forall₂ (fun value sealed =>
          (rule.decrypt ledger' ⟨database', schema', table', logic⟩ sealed).1 = .ok value ↔
            Algorithm.Recoverable marker value)
        values sealed

variable {table table' logic marker : String} {column : Column}

/-- A column whose cipher marks gets back, under every spelling of its table's name, exactly the
recoverable values, one at a time or element by element of a batch, and refuses to encrypt a
double. -/
theorem marking_round_trip (found : rule.column table logic = .ok column)
    (marking : column.cipher.handle.algorithm.marker? = some marker)
    (same : Text.lowerAscii table' = Text.lowerAscii table) :
    MarkingRoundTrip rule table table' logic marker := by
  have opening : ∀ ledger' database' schema' sealed,
      rule.decrypt ledger' ⟨database', schema', table', logic⟩ sealed = _ :=
    fun _ _ _ _ => decrypt_of_column_eq_ok (column_eq_ok_of_lowerAscii_eq same found)
  constructor
  · intro ledger ledger' database schema database' schema' value
    have sealing : rule.encrypt ledger ⟨database, schema, table, logic⟩ value = _ :=
      encrypt_of_column_eq_ok found
    simp only [sealing, opening, except_mapError_eq_ok]
    exact Cipher.decrypt_encrypt_iff marking _ _ value
  · intro ledger database schema x
    have sealing : rule.encrypt ledger ⟨database, schema, table, logic⟩ (.real x) = _ :=
      encrypt_of_column_eq_ok found
    simp [sealing, Cipher.encrypt_of_marker? marking, Value.isNull, Algorithm.mark, Except.mapError]
  · intro ledger ledger' database schema database' schema' values sealed ran
    have foundAt : rule.column (CallContext.mk database schema table logic).table logic =
        .ok column := found
    rw [encryptBatch_of_column_eq_ok foundAt values, failed_fst_eq_ok] at ran
    refine (callEach_eq_ok ran).imp fun value sealedOne encrypted => ?_
    rw [← Cipher.decrypt_encrypt_iff marking _ ⟨database', schema', table', logic⟩ value, opening,
      except_mapError_eq_ok]
    constructor
    · intro decrypted
      exact ⟨sealedOne, encrypted, decrypted⟩
    · rintro ⟨other, encryptedOther, decrypted⟩
      rw [encrypted, Except.ok.injEq] at encryptedOther
      rwa [encryptedOther]

theorem unmarked_column_round_trip :
    let factory := Session.factoryOf .registry Session.standardAlgorithms
    let config : RuleConfig :=
      { encryptors := Dictionary.empty.insert "plain_encryptor"
          { type := "AES", properties := Dictionary.empty.insert "prefix" "" }
        tables := [{ name := "t_user"
                     columns := [{ name := "pwd"
                                   cipher := { name := "pwd_cipher"
                                               encryptor := "plain_encryptor" } }] }] }
    ∃ rule column, build factory 0 config = .ok rule ∧ rule.column "t_user" "pwd" = .ok column ∧
      column.cipher.handle.algorithm.marker? = some "" ∧
      Text.lowerAscii "T_User" = Text.lowerAscii "t_user" ∧
      MarkingRoundTrip rule "t_user" "T_User" "pwd" "" :=
  ⟨_, _, rfl, rfl, rfl, by decide, marking_round_trip rfl rfl (by decide)⟩

end Rule

end ColumnCrypt
