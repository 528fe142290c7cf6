import ColumnCrypt.Proofs.Build
import ColumnCrypt.Proofs.Dispatch

/-!
Batches against their elements one by one.

A batch of search tokens and its elements one by one agree, counters included, on every list
except one whose lookup fails and that holds nothing but NULL: there the batch reports the
lookup's fault (`token_batches_one_by_one`). A batch encryption is single encryptions one by one,
once a batch-counting cipher has counted the batch (`encrypt_batch_one_by_one`).
-/

namespace ColumnCrypt

@[simp] theorem except_map_eq_ok_iff {ε α β : Type} {change : α → β} {first : Except ε α}
    {result : β} :
    first.map change = .ok result ↔ ∃ value, first = .ok value ∧ change value = result := by
  cases first with
  | error fault => simp [Except.map]
  | ok value => simp [Except.map]

@[simp] theorem except_mapError_eq_error_iff {ε ε' α : Type} {answer : Except ε α}
    {change : ε → ε'} {fault : ε'} :
    answer.mapError change = .error fault ↔ ∃ cause, answer = .error cause ∧ change cause = fault := by
  cases answer with
  | error cause => simp [Except.mapError]
  | ok value => simp [Except.mapError]

def Fault.duringBatch : Fault → Fault
  | .algorithmFailed .encrypt table column what => .algorithmFailed .batchEncrypt table column what
  | fault => fault

namespace Rule

/-- Answers each element in turn with a single-value operation, passing the counters on; the
first fault stops the list. -/
def oneByOne (single : Ledger → Value → Dispatched Value) :
    Ledger → List Value → Dispatched (List Value)
  | ledger, [] => (.ok [], ledger)
  | ledger, value :: rest =>
    match single ledger value with
    | (.error fault, ledger) => (.error fault, ledger)
    | (.ok result, ledger) =>
      let (answer, ledger) := oneByOne single ledger rest
      (answer.map (result :: ·), ledger)

def attempted (keepNull : Bool) (call : Value → Except String Value) (values : List Value) :
    List Value :=
  let called := values.filter fun value => !(keepNull && value.isNull)
  called.take ((called.takeWhile fun value => (call value).toBool).length + 1)

def countBatch (cipher : Handle Cipher) (ledger : Ledger) (size : Nat) : Ledger :=
  if cipher.algorithm = .batchCounting then ledger.recordBatch cipher.origin size else ledger

section Calls

variable {origin : Origin} {counts keepNull : Bool} {call : Value → Except String Value}
  {ledger : Ledger} {value : Value} {rest : List Value}

theorem callEach_cons_of_kept (kept : (keepNull && value.isNull) = true) :
    callEach origin counts keepNull call ledger (value :: rest) =
      ((callEach origin counts keepNull call ledger rest).1.map (Value.null :: ·),
        (callEach origin counts keepNull call ledger rest).2) := by
  simp [callEach, kept]

theorem callEach_cons_of_error (called : (keepNull && value.isNull) = false) {what : String}
    (refused : call value = .error what) :
    callEach origin counts keepNull call ledger (value :: rest) =
      (.error what, ledger.recordCall origin counts) := by
  simp [callEach, called, refused]

theorem callEach_cons_of_ok (called : (keepNull && value.isNull) = false) {result : Value}
    (answered : call value = .ok result) :
    callEach origin counts keepNull call ledger (value :: rest) =
      ((callEach origin counts keepNull call (ledger.recordCall origin counts) rest).1.map
          (result :: ·),
        (callEach origin counts keepNull call (ledger.recordCall origin counts) rest).2) := by
  simp [callEach, called, answered]

theorem attempted_cons_of_kept (kept : (keepNull && value.isNull) = true) :
    attempted keepNull call (value :: rest) = attempted keepNull call rest := by
  simp only [attempted, List.filter_cons, kept, Bool.not_true, Bool.false_eq_true, if_false]

theorem attempted_cons_of_error (called : (keepNull && value.isNull) = false) {what : String}
    (refused : call value = .error what) :
    attempted keepNull call (value :: rest) = [value] := by
  simp only [attempted, List.filter_cons, called, Bool.not_false, if_true, List.takeWhile_cons,
    refused, Except.toBool, Bool.false_eq_true, if_false, List.length_nil, Nat.zero_add,
    List.take_succ_cons, List.take_zero]

theorem attempted_cons_of_ok (called : (keepNull && value.isNull) = false) {result : Value}
    (answered : call value = .ok result) :
    attempted keepNull call (value :: rest) = value :: attempted keepNull call rest := by
  simp only [attempted, List.filter_cons, called, Bool.not_false, if_true, List.takeWhile_cons,
    answered, Except.toBool, List.length_cons, List.take_succ_cons]

end Calls

theorem failed_map {α β : Type} (operation : Operation) (context : CallContext)
    (answered : Except String α × Ledger) (change : α → β) :
    failed operation context (answered.1.map change, answered.2) =
      ((failed operation context answered).1.map change, (failed operation context answered).2) := by
  obtain ⟨answer, ledger⟩ := answered
  cases answer <;> rfl

section OneByOne

variable {single : Ledger → Value → Dispatched Value} {ledger after : Ledger} {value : Value}
  {rest : List Value}

theorem oneByOne_cons_of_error {fault : Fault} (refused : single ledger value = (.error fault, after)) :
    oneByOne single ledger (value :: rest) = (.error fault, after) := by
  simp [oneByOne, refused]

theorem oneByOne_cons_of_ok {result : Value} (answered : single ledger value = (.ok result, after)) :
    oneByOne single ledger (value :: rest) =
      ((oneByOne single after rest).1.map (result :: ·), (oneByOne single after rest).2) := by
  simp [oneByOne, answered]

end OneByOne

theorem failed_callEach (operation : Operation) (context : CallContext) (origin : Origin)
    (counts keepNull : Bool) (call : Value → Except String Value) (ledger : Ledger)
    (values : List Value) :
    failed operation context (callEach origin counts keepNull call ledger values) =
      oneByOne (fun ledger value =>
          if keepNull && value.isNull then (.ok .null, ledger)
          else failed operation context (callOnce origin counts call ledger value))
        ledger values := by
  induction values generalizing ledger with
  | nil => rfl
  | cons value rest ih =>
    cases kept : keepNull && value.isNull with
    | true =>
      rw [callEach_cons_of_kept kept, oneByOne_cons_of_ok (if_pos kept), ← ih]
      exact failed_map _ _ _ _
    | false =>
      have called : ¬(keepNull && value.isNull) = true := ne_true_of_eq_false kept
      cases answered : call value with
      | error what =>
        have refused : failed operation context (callOnce origin counts call ledger value) =
            (.error (.algorithmFailed operation context.table context.column what),
              ledger.recordCall origin counts) := by
          simp [callOnce, answered, failed]
        rw [callEach_cons_of_error kept answered, oneByOne_cons_of_error ((if_neg called).trans refused)]
        rfl
      | ok result =>
        have answeredOnce : failed operation context (callOnce origin counts call ledger value) =
            (.ok result, ledger.recordCall origin counts) := by
          simp [callOnce, answered, failed]
        rw [callEach_cons_of_ok kept answered, oneByOne_cons_of_ok ((if_neg called).trans answeredOnce),
          ← ih]
        exact failed_map _ _ _ _

/-- Each call counts once, on the elements the call is made on. -/
theorem callEach_ledger (origin : Origin) (counts keepNull : Bool)
    (call : Value → Except String Value) (ledger : Ledger) (values : List Value) :
    (callEach origin counts keepNull call ledger values).2 =
      (attempted keepNull call values).foldl
        (fun ledger _ => ledger.recordCall origin counts) ledger := by
  induction values generalizing ledger with
  | nil => rfl
  | cons value rest ih =>
    cases kept : keepNull && value.isNull with
    | true => rw [callEach_cons_of_kept kept, attempted_cons_of_kept kept, ← ih]
    | false =>
      cases answered : call value with
      | error what => rw [callEach_cons_of_error kept answered, attempted_cons_of_error kept answered]; rfl
      | ok result =>
        rw [callEach_cons_of_ok kept answered, attempted_cons_of_ok kept answered, List.foldl_cons,
          ← ih]

section OneByOne

variable {single : Ledger → Value → Dispatched Value}

theorem oneByOne_mapError {single' : Ledger → Value → Dispatched Value} (change : Fault → Fault)
    (changed : ∀ ledger value,
      single' ledger value = ((single ledger value).1.mapError change, (single ledger value).2))
    (ledger : Ledger) (values : List Value) :
    oneByOne single' ledger values =
      ((oneByOne single ledger values).1.mapError change, (oneByOne single ledger values).2) := by
  induction values generalizing ledger with
  | nil => rfl
  | cons value rest ih =>
    rcases answered : single ledger value with ⟨answer, after⟩
    cases answer with
    | error fault =>
      have refused : single' ledger value = (.error (change fault), after) := by
        rw [changed, answered]
        rfl
      rw [oneByOne_cons_of_error answered, oneByOne_cons_of_error refused]
      rfl
    | ok result =>
      have answered' : single' ledger value = (.ok result, after) := by
        rw [changed, answered]
        rfl
      rw [oneByOne_cons_of_ok answered, oneByOne_cons_of_ok answered', ih]
      cases (oneByOne single after rest).1 <;> rfl

/-- What an operation answers does not hang on the counters it is given. -/
def Stable (single : Ledger → Value → Dispatched Value) : Prop :=
  ∀ ledger ledger' value, (single ledger value).1 = (single ledger' value).1

theorem oneByOne_fst_eq_ok_iff (stable : Stable single) (ledger : Ledger)
    (values results : List Value) :
    (oneByOne single ledger values).1 = .ok results ↔
      List.Forall₂ (fun value result => (single ledger value).1 = .ok result) values results := by
  induction values generalizing ledger results with
  | nil => cases results <;> simp [oneByOne]
  | cons value rest ih =>
    rcases answered : single ledger value with ⟨answer, after⟩
    cases answer with
    | error fault =>
      rw [oneByOne_cons_of_error answered]
      cases results <;> simp [answered]
    | ok result =>
      rw [oneByOne_cons_of_ok answered]
      cases results with
      | nil => simp
      | cons first others =>
        have restStable :
            List.Forall₂ (fun value result => (single ledger value).1 = .ok result) rest others ↔
              List.Forall₂ (fun value result => (single after value).1 = .ok result) rest others := by
          simp only [stable ledger after]
        simp only [List.forall₂_cons, restStable, ← ih after, answered, except_map_eq_ok_iff,
          List.cons.injEq, Except.ok.injEq]
        constructor
        · rintro ⟨answers, ran, rfl, rfl⟩
          exact ⟨rfl, ran⟩
        · rintro ⟨rfl, ran⟩
          exact ⟨others, ran, rfl, rfl⟩

theorem oneByOne_fst_eq_error_iff (stable : Stable single) (ledger : Ledger) (values : List Value)
    (fault : Fault) :
    (oneByOne single ledger values).1 = .error fault ↔
      ∃ before value after, values = before ++ value :: after ∧
        (∀ earlier ∈ before, ∃ result, (single ledger earlier).1 = .ok result) ∧
        (single ledger value).1 = .error fault := by
  induction values generalizing ledger with
  | nil => simp [oneByOne]
  | cons value rest ih =>
    rcases answered : single ledger value with ⟨answer, after⟩
    cases answer with
    | error cause =>
      rw [oneByOne_cons_of_error answered]
      simp only [Except.error.injEq]
      constructor
      · rintro rfl
        exact ⟨[], value, rest, rfl, by simp, by rw [answered]⟩
      · rintro ⟨before, failing, later, split, earlierAnswer, failed⟩
        cases before with
        | nil =>
          simp only [List.nil_append, List.cons.injEq] at split
          rw [← split.1, answered] at failed
          exact Except.error.inj failed
        | cons first earlier =>
          simp only [List.cons_append, List.cons.injEq] at split
          obtain ⟨result, answeredFirst⟩ := earlierAnswer first (by simp)
          rw [← split.1, answered] at answeredFirst
          cases answeredFirst
    | ok result =>
      rw [oneByOne_cons_of_ok answered]
      have mapped : (oneByOne single after rest).1.map (result :: ·) = .error fault ↔
          (oneByOne single after rest).1 = .error fault := by
        cases (oneByOne single after rest).1 <;> simp [Except.map]
      simp only [mapped, ih after, stable after ledger]
      constructor
      · rintro ⟨before, failing, later, rfl, earlierAnswer, failed⟩
        refine ⟨value :: before, failing, later, rfl, ?_, failed⟩
        intro earlier member
        rcases List.mem_cons.mp member with rfl | member
        · exact ⟨result, by rw [answered]⟩
        · exact earlierAnswer earlier member
      · rintro ⟨before, failing, later, split, earlierAnswer, failed⟩
        cases before with
        | nil =>
          simp only [List.nil_append, List.cons.injEq] at split
          rw [← split.1, answered] at failed
          cases failed
        | cons first earlier =>
          simp only [List.cons_append, List.cons.injEq] at split
          obtain ⟨rfl, rfl⟩ := split
          exact ⟨earlier, failing, later, rfl,
            fun other member => earlierAnswer other (List.mem_cons_of_mem _ member), failed⟩

end OneByOne

theorem failed_snd {α : Type} (operation : Operation) (context : CallContext)
    (answered : Except String α × Ledger) :
    (failed operation context answered).2 = answered.2 := by
  obtain ⟨answer, ledger⟩ := answered
  cases answer <;> rfl

/-- How a batch of search tokens stands to the single tokens of its elements, for the algorithm
that `lookup` finds for the call's table and column. -/
structure TokensOneByOne {α : Type} (lookup : Except Fault (Handle α))
    (token : α → Value → Except String Value) (counts : α → Bool)
    (single : Ledger → Value → Dispatched Value)
    (batch : Ledger → List Value → Dispatched (List Value)) : Prop where
  agrees (ledger : Ledger) (values : List Value)
      (reached : (∃ handle, lookup = .ok handle) ∨ ∃ value ∈ values, value.isNull = false) :
    batch ledger values = oneByOne single ledger values
  unreached (ledger : Ledger) (values : List Value) (fault : Fault)
      (missing : lookup = .error fault) (allNull : ∀ value ∈ values, value.isNull = true) :
    batch ledger values = (.error fault, ledger) ∧
      oneByOne single ledger values = (.ok (List.replicate values.length .null), ledger)
  answers_iff (ledger : Ledger) (values results : List Value) :
    (batch ledger values).1 = .ok results ↔
      ∃ handle, lookup = .ok handle ∧
        List.Forall₂ (fun value result =>
            if value.isNull then result = .null else token handle.algorithm value = .ok result)
          values results
  calls (ledger : Ledger) (values : List Value) (handle : Handle α) (found : lookup = .ok handle) :
    (batch ledger values).2 =
      (attempted true (token handle.algorithm) values).foldl
        (fun ledger _ => ledger.recordCall handle.origin (counts handle.algorithm)) ledger

section Tokens

variable {α : Type} {token : α → Value → Except String Value} {counts : α → Bool}
  (operation : Operation) (context : CallContext)

theorem oneByOne_of_lookup_error (fault : Fault) (ledger : Ledger) (values : List Value) :
    oneByOne (fun ledger value =>
        if value.isNull then (.ok .null, ledger) else (.error fault, ledger)) ledger values =
      if ∀ value ∈ values, value.isNull = true then
        (.ok (List.replicate values.length .null), ledger)
      else (.error fault, ledger) := by
  induction values with
  | nil => rfl
  | cons value rest ih =>
    cases isNull : value.isNull with
    | true =>
      rw [oneByOne_cons_of_ok (if_pos isNull), ih]
      by_cases allNull : ∀ value ∈ rest, value.isNull = true
      · have allNull' : ∀ other ∈ value :: rest, other.isNull = true :=
          List.forall_mem_cons.mpr ⟨isNull, allNull⟩
        rw [if_pos allNull, if_pos allNull']
        rfl
      · have notAll : ¬∀ other ∈ value :: rest, other.isNull = true :=
          fun all => allNull fun other member => all other (List.mem_cons_of_mem _ member)
        rw [if_neg allNull, if_neg notAll]
        rfl
    | false =>
      have notAll : ¬∀ other ∈ value :: rest, other.isNull = true :=
        fun all => Bool.false_ne_true (isNull.symm.trans (all value (by simp)))
      rw [oneByOne_cons_of_error (if_neg (ne_true_of_eq_false isNull)), if_neg notAll]

variable {lookup : Except Fault (Handle α)} {single : Ledger → Value → Dispatched Value}
  {batch : Ledger → List Value → Dispatched (List Value)}

theorem tokensOneByOne
    (single_missing : ∀ fault, lookup = .error fault → ∀ ledger value,
      single ledger value = if value.isNull then (.ok .null, ledger) else (.error fault, ledger))
    (single_found : ∀ handle, lookup = .ok handle → ∀ ledger value,
      single ledger value =
        if value.isNull then (.ok .null, ledger)
        else failed operation context
          (callOnce handle.origin (counts handle.algorithm) (token handle.algorithm) ledger value))
    (batch_missing : ∀ fault, lookup = .error fault → ∀ ledger values,
      batch ledger values = (.error fault, ledger))
    (batch_found : ∀ handle, lookup = .ok handle → ∀ ledger values,
      batch ledger values = failed operation context
        (callEach handle.origin (counts handle.algorithm) true (token handle.algorithm) ledger
          values)) :
    TokensOneByOne lookup token counts single batch := by
  cases looked : lookup with
  | error fault =>
    have singles : single = fun ledger value =>
        if value.isNull then (.ok .null, ledger) else (.error fault, ledger) := by
      funext ledger value
      exact single_missing fault looked ledger value
    have batches := batch_missing fault looked
    refine ⟨?_, ?_, ?_, ?_⟩
    · rintro ledger values (⟨handle, found⟩ | ⟨value, member, present⟩)
      · cases found
      · rw [batches, singles, oneByOne_of_lookup_error, if_neg]
        intro allNull
        rw [allNull value member] at present
        cases present
    · rintro ledger values _ ⟨⟩ allNull
      rw [batches, singles, oneByOne_of_lookup_error, if_pos allNull]
      exact ⟨rfl, rfl⟩
    · intro ledger values results
      simp [batches]
    · rintro ledger values handle ⟨⟩
  | ok handle =>
    -- past the lookup, the batch is the single tokens one by one
    have singles : single = fun ledger value =>
        if true && value.isNull then (.ok .null, ledger)
        else failed operation context (callOnce handle.origin (counts handle.algorithm)
          (token handle.algorithm) ledger value) := by
      funext ledger value
      exact single_found handle looked ledger value
    have batches : ∀ ledger values, batch ledger values = oneByOne single ledger values := by
      intro ledger values
      rw [batch_found handle looked, singles]
      exact failed_callEach _ _ _ _ _ _ _ _
    have tokenOf : ∀ ledger value result, (single ledger value).1 = .ok result ↔
        if value.isNull then result = .null else token handle.algorithm value = .ok result := by
      intro ledger value result
      rw [single_found handle looked]
      cases value.isNull with
      | true => simp [eq_comm]
      | false => simp [failed_callOnce]
    have stable : Stable single := by
      intro ledger ledger' value
      rw [single_found handle looked, single_found handle looked]
      cases value.isNull with
      | true => rfl
      | false => simp [failed_callOnce]
    refine ⟨fun ledger values _ => batches ledger values, ?_, ?_, ?_⟩
    · rintro ledger values _ ⟨⟩
    · intro ledger values results
      rw [batches, oneByOne_fst_eq_ok_iff stable]
      simp only [Except.ok.injEq, exists_eq_left']
      exact ⟨fun answered => answered.imp fun value result => (tokenOf ledger value result).mp,
        fun answered => answered.imp fun value result => (tokenOf ledger value result).mpr⟩
    · rintro ledger values _ ⟨⟩
      rw [batch_found handle looked, failed_snd]
      exact callEach_ledger _ _ _ _ _ _

end Tokens

theorem table_bind_fault {α : Type} {rule : Rule} {table : String} {next : Table → Except Fault α}
    {fault : Fault} (missing : (rule.table table >>= next) = .error fault) :
    fault = .tableNotFound table ∨ ∃ located, next located = .error fault := by
  cases found : rule.table? table with
  | none =>
    simp only [Rule.table, found, bind, Except.bind] at missing
    exact .inl (Except.error.inj missing).symm
  | some located =>
    simp only [Rule.table, found, bind, Except.bind] at missing
    exact .inr ⟨located, missing⟩

variable {rule : Rule} {table logic : String} {fault : Fault}

theorem assistedQuery_fault (missing : rule.assistedQuery table logic = .error fault) :
    fault = .tableNotFound table ∨ fault = .missingEncryptor .assistedQuery table logic := by
  refine (table_bind_fault missing).imp_right fun ⟨located, refused⟩ => ?_
  cases bound : located.findAssistedQuery? logic <;> simp [bound, throw, throwThe,
    MonadExceptOf.throw, pure, Except.pure] at refused
  exact refused.symm

theorem likeQuery_fault (missing : rule.likeQuery table logic = .error fault) :
    fault = .tableNotFound table ∨ fault = .missingEncryptor .likeQuery table logic := by
  refine (table_bind_fault missing).imp_right fun ⟨located, refused⟩ => ?_
  cases bound : located.findLikeQuery? logic <;> simp [bound, throw, throwThe,
    MonadExceptOf.throw, pure, Except.pure] at refused
  exact refused.symm

/-- A batch of exact-match or pattern tokens is its elements' single tokens one by one, counters
included, except where the lookup fails and no element is other than NULL: the batch then reports
the lookup's fault, a table not found or an algorithm missing, and the single tokens are all
NULL. A batch that answers keeps the length of its list, NULL where the element is NULL and the
algorithm's token elsewhere, and the algorithm is called on the elements that are not NULL up to
and including the first it fails on. -/
theorem token_batches_one_by_one (rule : Rule) (context : CallContext) :
    TokensOneByOne (rule.assistedQuery context.table context.column) (·.token context)
        AssistedQuery.counts (rule.assistedToken · context) (rule.assistedTokens · context) ∧
      TokensOneByOne (rule.likeQuery context.table context.column) (·.token context)
        LikeQuery.counts (rule.likeToken · context) (rule.likeTokens · context) ∧
      (∀ fault, rule.assistedQuery context.table context.column = .error fault →
        fault = .tableNotFound context.table ∨
          fault = .missingEncryptor .assistedQuery context.table context.column) ∧
      ∀ fault, rule.likeQuery context.table context.column = .error fault →
        fault = .tableNotFound context.table ∨
          fault = .missingEncryptor .likeQuery context.table context.column :=
  ⟨tokensOneByOne .assistedQuery context (fun _ missing _ _ => by simp [assistedToken, missing])
      (fun _ found _ _ => by simp [assistedToken, found])
      (fun _ missing => assistedTokens_of_assistedQuery_eq_error missing)
      (fun _ found _ => assistedTokens_of_assistedQuery_eq_ok found),
    tokensOneByOne .likeQuery context (fun _ missing _ _ => by simp [likeToken, missing])
      (fun _ found _ _ => by simp [likeToken, found])
      (fun _ missing => likeTokens_of_likeQuery_eq_error missing)
      (fun _ found _ => likeTokens_of_likeQuery_eq_ok found),
    fun _ => assistedQuery_fault, fun _ => likeQuery_fault⟩

theorem failed_batchEncrypt (context : CallContext) (answered : Except String Value × Ledger) :
    failed .batchEncrypt context answered =
      ((failed .encrypt context answered).1.mapError Fault.duringBatch,
        (failed .encrypt context answered).2) := by
  obtain ⟨answer, ledger⟩ := answered
  cases answer <;> rfl

theorem batch_counters_foldl_recordCall (origin : Origin) (counts : Bool) (called : List Value)
    (ledger : Ledger) (other : Origin) :
    ((called.foldl (fun ledger _ => ledger.recordCall origin counts) ledger).counters other).batchCalls =
        (ledger.counters other).batchCalls ∧
      ((called.foldl (fun ledger _ => ledger.recordCall origin counts) ledger).counters
          other).lastBatchSize = (ledger.counters other).lastBatchSize := by
  induction called generalizing ledger with
  | nil => exact ⟨rfl, rfl⟩
  | cons _ rest ih =>
    obtain ⟨batches, size⟩ := ih (ledger.recordCall origin counts)
    simp only [List.foldl_cons, batches, size, Ledger.batchCalls_recordCall,
      Ledger.lastBatchSize_recordCall, and_self]

theorem batch_counters_countBatch (cipher : Handle Cipher) (ledger : Ledger) (size : Nat)
    (other : Origin) :
    ((countBatch cipher ledger size).counters other).batchCalls =
        (ledger.counters other).batchCalls +
          (if cipher.algorithm = .batchCounting ∧ other = cipher.origin then 1 else 0) ∧
      ((countBatch cipher ledger size).counters other).lastBatchSize =
        if cipher.algorithm = .batchCounting ∧ other = cipher.origin then size
        else (ledger.counters other).lastBatchSize := by
  by_cases batching : cipher.algorithm = .batchCounting <;>
    by_cases same : other = cipher.origin <;>
    simp [countBatch, batching, same, Ledger.recordBatch]

/-- How a batch encryption for a column whose cipher is `cipher` stands to single encryptions of
its elements. -/
structure EncryptsOneByOne (rule : Rule) (context : CallContext) (cipher : Handle Cipher) :
    Prop where
  one_by_one (ledger : Ledger) (values : List Value) :
    rule.encryptBatch ledger context values =
      ((oneByOne (rule.encrypt · context) (countBatch cipher ledger values.length) values).1.mapError
          Fault.duringBatch,
        (oneByOne (rule.encrypt · context) (countBatch cipher ledger values.length) values).2)
  answers_iff (ledger : Ledger) (values results : List Value) :
    (rule.encryptBatch ledger context values).1 = .ok results ↔
      List.Forall₂ (fun value result => (rule.encrypt ledger context value).1 = .ok result)
        values results
  fails_iff (ledger : Ledger) (values : List Value) (fault : Fault) :
    (rule.encryptBatch ledger context values).1 = .error fault ↔
      ∃ before value after what, values = before ++ value :: after ∧
        (∀ earlier ∈ before, ∃ result, (rule.encrypt ledger context earlier).1 = .ok result) ∧
        (rule.encrypt ledger context value).1 =
          .error (.algorithmFailed .encrypt context.table context.column what) ∧
        fault = .algorithmFailed .batchEncrypt context.table context.column what
  calls (ledger : Ledger) (values : List Value) :
    (rule.encryptBatch ledger context values).2 =
      (attempted false (cipher.algorithm.encrypt context) values).foldl
        (fun ledger _ => ledger.recordCall cipher.origin cipher.algorithm.counts)
        (countBatch cipher ledger values.length)
  batches (ledger : Ledger) (values : List Value) (origin : Origin) :
    ((rule.encryptBatch ledger context values).2.counters origin).batchCalls =
        (ledger.counters origin).batchCalls +
          (if cipher.algorithm = .batchCounting ∧ origin = cipher.origin then 1 else 0) ∧
      ((rule.encryptBatch ledger context values).2.counters origin).lastBatchSize =
        if cipher.algorithm = .batchCounting ∧ origin = cipher.origin then values.length
        else (ledger.counters origin).lastBatchSize

theorem encryptsOneByOne {rule : Rule} {context : CallContext} {column : Column}
    (found : rule.column context.table context.column = .ok column) :
    EncryptsOneByOne rule context column.cipher.handle := by
  have single : ∀ ledger value, rule.encrypt ledger context value =
      failed .encrypt context (callOnce column.cipher.handle.origin
        column.cipher.handle.algorithm.counts (column.cipher.handle.algorithm.encrypt context)
        ledger value) := by
    intro ledger value
    simp only [encrypt, found]
  have batch : ∀ ledger values, rule.encryptBatch ledger context values =
      failed .batchEncrypt context (callEach column.cipher.handle.origin
        column.cipher.handle.algorithm.counts false (column.cipher.handle.algorithm.encrypt context)
        (countBatch column.cipher.handle ledger values.length) values) :=
    fun _ values => encryptBatch_of_column_eq_ok found values
  have stableEncrypt : ∀ ledger ledger' value,
      (rule.encrypt ledger context value).1 = (rule.encrypt ledger' context value).1 := by
    intro ledger ledger' value
    rw [encrypt_of_column_eq_ok found, encrypt_of_column_eq_ok found]
  have stable : Stable (rule.encrypt · context) := stableEncrypt
  have encryptFault : ∀ {ledger value cause}, (rule.encrypt ledger context value).1 = .error cause →
      ∃ what, cause = .algorithmFailed .encrypt context.table context.column what := by
    intro ledger value cause refused
    rw [encrypt_of_column_eq_ok found, except_mapError_eq_error_iff] at refused
    obtain ⟨what, -, named⟩ := refused
    exact ⟨what, named.symm⟩
  have oneByOne_eq : ∀ ledger values, rule.encryptBatch ledger context values =
      ((oneByOne (rule.encrypt · context) (countBatch column.cipher.handle ledger values.length)
            values).1.mapError Fault.duringBatch,
        (oneByOne (rule.encrypt · context) (countBatch column.cipher.handle ledger values.length)
            values).2) := by
    intro ledger values
    rw [batch, failed_callEach]
    apply oneByOne_mapError
    intro ledger value
    simp only [Bool.false_and, Bool.false_eq_true, if_false]
    rw [single, failed_batchEncrypt]
  refine ⟨oneByOne_eq, ?_, ?_, ?_, ?_⟩
  · intro ledger values results
    rw [oneByOne_eq, except_mapError_eq_ok, oneByOne_fst_eq_ok_iff stable]
    simp only [stableEncrypt (countBatch column.cipher.handle ledger values.length) ledger]
  · intro ledger values fault
    rw [oneByOne_eq, except_mapError_eq_error_iff]
    simp only [oneByOne_fst_eq_error_iff stable,
      stableEncrypt (countBatch column.cipher.handle ledger values.length) ledger]
    constructor
    · rintro ⟨cause, ⟨before, value, after, split, earlier, refused⟩, rfl⟩
      obtain ⟨what, rfl⟩ := encryptFault refused
      exact ⟨before, value, after, what, split, earlier, refused, rfl⟩
    · rintro ⟨before, value, after, what, split, earlier, refused, rfl⟩
      exact ⟨_, ⟨before, value, after, split, earlier, refused⟩, rfl⟩
  · intro ledger values
    rw [batch, failed_snd, callEach_ledger]
  · intro ledger values origin
    rw [batch, failed_snd, callEach_ledger,
      (batch_counters_foldl_recordCall _ _ _ _ origin).1,
      (batch_counters_foldl_recordCall _ _ _ _ origin).2]
    exact batch_counters_countBatch _ _ _ origin

/-- A batch encryption looks its column up first: a lookup that fails answers the lookup's
fault, as single encryptions do, for every list, the empty one included, and counts nothing.
Past the lookup the batch is the single encryptions of its elements one by one, NULL included:
it answers their results in order, or fails at the first element that fails, with that
failure's table, column and message named as a failure of batch encryption; a batch-counting
cipher counts each batch once and keeps its size. -/
theorem encrypt_batch_one_by_one (rule : Rule) (context : CallContext) :
    (∀ fault, rule.column context.table context.column = .error fault → ∀ ledger,
      (∀ values, rule.encryptBatch ledger context values = (.error fault, ledger)) ∧
        ∀ value, rule.encrypt ledger context value = (.error fault, ledger)) ∧
      ∀ column, rule.column context.table context.column = .ok column →
        EncryptsOneByOne rule context column.cipher.handle := by
  refine ⟨?_, fun _ found => encryptsOneByOne found⟩
  intro fault missing ledger
  exact ⟨encryptBatch_of_column_eq_error missing ledger, encrypt_of_column_eq_error missing ledger⟩

end Rule

end ColumnCrypt
