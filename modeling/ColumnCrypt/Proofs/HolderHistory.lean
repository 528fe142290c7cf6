import ColumnCrypt.Session

/-!
What a holder shows after any sequence of calls: the last rule put in force, and as its
generation the count of rules put in force (`run_shows_inForce`). A session's holder goes through
the calls of its steps and nothing else (`HolderState.run_holder`).
-/

namespace ColumnCrypt.Holder

def Call.putsInForce (generation : Nat) : Call → Option Rule
  | .publish rule => rule
  | .reload factory config => (Rule.build factory generation config).toOption
  | .current | .generation => none

/-- The rules that calls put in force, in order, on a holder that starts at a generation. -/
def inForce (generation : Nat) : List Call → List Rule
  | [] => []
  | call :: rest =>
    match call.putsInForce generation with
    | some rule => rule :: inForce (generation + 1) rest
    | none => inForce generation rest

/-- The holder after rules are put in force: the last of them is current, else what was current,
and each counts one generation. -/
def putInForce (holder : Holder) (rules : List Rule) : Holder :=
  { current := rules.getLast?.or holder.current, generation := holder.generation + rules.length }

variable {holder : Holder} {call : Call} {rule : Rule}

theorem answer_snd_of_putsInForce_eq_some (puts : call.putsInForce holder.generation = some rule) :
    (holder.answer call).2 = { current := some rule, generation := holder.generation + 1 } := by
  cases call with
  | publish published =>
    cases published with
    | none => cases puts
    | some published =>
      cases puts
      rfl
  | reload factory config =>
    simp only [Call.putsInForce] at puts
    cases built : Rule.build factory holder.generation config with
    | error fault => simp [built, Except.toOption] at puts
    | ok made =>
      simp only [built, Except.toOption, Option.some.injEq] at puts
      subst made
      simp [answer, reload, built, publish]
  | current => cases puts
  | generation => cases puts

theorem answer_snd_of_putsInForce_eq_none (keeps : call.putsInForce holder.generation = none) :
    (holder.answer call).2 = holder := by
  cases call with
  | publish published =>
    cases published with
    | none => rfl
    | some published => cases keeps
  | reload factory config =>
    simp only [Call.putsInForce] at keeps
    cases built : Rule.build factory holder.generation config with
    | error fault => simp [answer, reload, built]
    | ok made => simp [built, Except.toOption] at keeps
  | current => rfl
  | generation => rfl

theorem answer_of_unchanged (holder : Holder) :
    holder.answer .current = (.current holder.current, holder) ∧
    holder.answer .generation = (.generation holder.generation, holder) ∧
    holder.answer (.publish none) = (.published false, holder) ∧
    ∀ factory config fault, Rule.build factory holder.generation config = .error fault →
      holder.answer (.reload factory config) = (.reloaded (.error fault), holder) := by
  refine ⟨rfl, rfl, rfl, ?_⟩
  intro factory config fault failed
  simp [answer, reload, failed]

@[simp] theorem putInForce_nil (holder : Holder) : holder.putInForce [] = holder := by
  simp [putInForce]

theorem putInForce_cons (holder : Holder) (rule : Rule) (rules : List Rule) :
    ({ current := some rule, generation := holder.generation + 1 } : Holder).putInForce rules =
      holder.putInForce (rule :: rules) := by
  simp only [putInForce, List.getLast?_cons, List.length_cons, Holder.mk.injEq]
  constructor
  · cases rules.getLast? <;> rfl
  · omega

theorem run_snd (holder : Holder) (calls : List Call) :
    (holder.run calls).2 = holder.putInForce (inForce holder.generation calls) := by
  induction calls generalizing holder with
  | nil => simp [run, inForce]
  | cons call rest ih =>
    simp only [run, inForce]
    cases puts : call.putsInForce holder.generation with
    | none => rw [answer_snd_of_putsInForce_eq_none puts, ih]
    | some rule => rw [answer_snd_of_putsInForce_eq_some puts, ih, putInForce_cons]

theorem length_run_fst (holder : Holder) (calls : List Call) :
    (holder.run calls).1.length = calls.length := by
  induction calls generalizing holder with
  | nil => rfl
  | cons call rest ih => simp [run, ih]

theorem run_append (holder : Holder) (before after : List Call) :
    holder.run (before ++ after) =
      ((holder.run before).1 ++ ((holder.run before).2.run after).1,
        ((holder.run before).2.run after).2) := by
  induction before generalizing holder with
  | nil => rfl
  | cons call rest ih => simp [run, ih]

theorem run_fst_getElem? (holder : Holder) (before : List Call) (call : Call) (after : List Call) :
    (holder.run (before ++ call :: after)).1[before.length]? =
      some ((holder.run before).2.answer call).1 := by
  rw [run_append]
  have answered := length_run_fst holder before
  simp [run, answered]

/-- After every sequence of calls a holder that started with `initial` at generation zero shows
the last rule put in force, or `initial` if none was, and as its generation the count of rules put
in force; every call is answered on what the holder shows after the calls before it. A read
answers what the holder shows, and a publication of no rule and a reload whose build fails,
answered with the build's fault as it is, keep the rule in force and the generation. -/
theorem run_shows_inForce (initial : Option Rule) (calls : List Call) :
    let start : Holder := { current := initial }
    (start.run calls).2 =
        { current := (inForce 0 calls).getLast?.or initial,
          generation := (inForce 0 calls).length } ∧
    (∀ before call after, calls = before ++ call :: after →
      (start.run calls).1[before.length]? =
        some ((start.putInForce (inForce 0 before)).answer call).1) ∧
    ∀ holder : Holder,
      holder.answer .current = (.current holder.current, holder) ∧
      holder.answer .generation = (.generation holder.generation, holder) ∧
      holder.answer (.publish none) = (.published false, holder) ∧
      ∀ factory config fault, Rule.build factory holder.generation config = .error fault →
        holder.answer (.reload factory config) = (.reloaded (.error fault), holder) := by
  intro start
  refine ⟨?_, ?_, answer_of_unchanged⟩
  · rw [run_snd]
    simp [putInForce, start]
  · rintro before call after rfl
    rw [run_fst_getElem?, run_snd]

end ColumnCrypt.Holder

namespace ColumnCrypt.Session

theorem HolderStep.run_holder (state : HolderState) (step : HolderStep) :
    (step.run state).2.holder = match step.call? with
      | some request => (state.holder.answer request).2
      | none => state.holder := by
  cases step with
  | call request => rfl
  | ask query =>
    simp only [HolderStep.run, HolderStep.call?]
    split <;> rfl

theorem HolderState.run_holder (state : HolderState) (steps : List HolderStep) :
    (state.run steps).2.holder = (state.holder.run (steps.filterMap HolderStep.call?)).2 := by
  induction steps generalizing state with
  | nil => rfl
  | cons step rest ih =>
    have stepped := HolderStep.run_holder state step
    simp only [HolderState.run, ih]
    cases step with
    | call request => simp [stepped, HolderStep.call?, Holder.run]
    | ask query => simp [stepped, HolderStep.call?, List.filterMap_cons]

/-- After any steps a session's holder shows the rules that the calls among them put in force. -/
theorem HolderState.run_holder_eq_putInForce (state : HolderState) (steps : List HolderStep) :
    (state.run steps).2.holder =
      state.holder.putInForce
        (Holder.inForce state.holder.generation (steps.filterMap HolderStep.call?)) := by
  rw [HolderState.run_holder, Holder.run_snd]

end ColumnCrypt.Session
