import Mathlib.Data.List.Nodup
import ColumnCrypt.Session

/-!
Runs of registrations on a registry of creators: a registration is taken exactly when its type
and creator are not empty and no earlier taken type folds alike to capitals, and a refused one
changes nothing (`registration_run_records`).
-/

namespace ColumnCrypt

namespace AlgorithmRegistry

def registerAll (registry : AlgorithmRegistry) :
    List (String × Option Creator) → List Bool × AlgorithmRegistry
  | [] => ([], registry)
  | call :: rest =>
    let registered := registry.register call.1 call.2
    let later := registered.2.registerAll rest
    (registered.1 :: later.1, later.2)

def takenOf (calls : List (String × Option Creator)) (replies : List Bool) :
    List (String × Creator) :=
  (calls.zip replies).filterMap fun answered =>
    if answered.2 then answered.1.2.map (answered.1.1, ·) else none

variable {registry : AlgorithmRegistry} {type : String} {creator : Option Creator}

/-- A registration is refused and changes nothing, or it is taken: its type and creator are not
empty, the type is new, and the creator is appended under the type in capitals. -/
theorem register_cases (registry : AlgorithmRegistry) (type : String) (creator : Option Creator) :
    (registry.register type creator = (false, registry) ∧
      ¬(type ≠ "" ∧ creator.isSome = true ∧ registry.contains type = false)) ∨
    ∃ made, creator = some made ∧ type ≠ "" ∧ registry.contains type = false ∧
      registry.register type creator =
        (true, ⟨registry.creators ++ [(Text.upperAscii type, made)]⟩) := by
  unfold register
  cases creator with
  | none => simp
  | some made =>
    by_cases empty : type = ""
    · simp [empty]
    · cases present : registry.contains type <;> simp [empty]

theorem register_fst_eq_true_iff :
    (registry.register type creator).1 = true ↔
      type ≠ "" ∧ creator.isSome = true ∧ registry.contains type = false := by
  rcases register_cases registry type creator with ⟨refused, notTaken⟩ | ⟨made, rfl, named, fresh, taken⟩
  · simp [refused, notTaken]
  · simp [taken, named, fresh]

theorem register_snd_of_refused (refused : (registry.register type creator).1 = false) :
    (registry.register type creator).2 = registry := by
  rcases register_cases registry type creator with ⟨kept, -⟩ | ⟨made, -, -, -, taken⟩
  · rw [kept]
  · rw [taken] at refused
    cases refused

theorem register_creators :
    (registry.register type creator).2.creators =
      registry.creators ++
        if (registry.register type creator).1 then
          (creator.map (Text.upperAscii type, ·)).toList
        else [] := by
  rcases register_cases registry type creator with ⟨kept, -⟩ | ⟨made, rfl, -, -, taken⟩
  · simp [kept]
  · simp [taken]

theorem contains_iff :
    registry.contains type = true ↔
      ∃ entry ∈ registry.creators, entry.1 = Text.upperAscii type := by
  simp [contains]

theorem find?_eq_none_iff : registry.find? type = none ↔ registry.contains type = false := by
  simp [find?, contains, List.find?_eq_none, List.any_eq_false]

theorem find?_of_mem (distinct : (registry.creators.map (·.1)).Nodup)
    {made : Creator} (member : (Text.upperAscii type, made) ∈ registry.creators) :
    registry.find? type = some made := by
  have located : (registry.creators.find? (·.1 = Text.upperAscii type)).isSome := by
    rw [List.find?_isSome]
    exact ⟨_, member, by simp⟩
  obtain ⟨entry, found⟩ := Option.isSome_iff_exists.mp located
  have same : entry.1 = Text.upperAscii type := by simpa using List.find?_some found
  have entryIs : entry = (Text.upperAscii type, made) :=
    List.inj_on_of_nodup_map distinct (List.mem_of_find?_eq_some found) member same
  simp [find?, found, entryIs]

theorem resolve_of_find?_eq_none {fresh : Origin} {properties : Properties}
    (missing : registry.find? type = none) :
    registry.resolve fresh type properties = .error (.notRegistered type) := by
  simp [resolve, missing]

theorem resolve_of_find?_eq_some {fresh : Origin} {properties : Properties} {made : Creator}
    (found : registry.find? type = some made) :
    registry.resolve fresh type properties =
      match made.create fresh properties with
      | .threw what => .error (.initFailed type what)
      | .refused fault => .error fault
      | .built instance_ =>
        if instance_.capabilities = Capability.none then .error (.noCapability type)
        else if instance_.type = "" then .ok { instance_ with type }
        else .ok instance_ := by
  -- the match of the statement is a copy of the one in `resolve`: the two agree on each outcome
  cases creation : made.create fresh properties <;> simp [resolve, found, creation]

theorem AlgorithmKind.type_of_creator? {kind : AlgorithmKind} (typed : kind ≠ .untypedCipher)
    {registered : String} {made : Creator} (created : kind.creator? registered = some made)
    {origin : Origin} {properties : Properties} {instance_ : Instance}
    (built : made.create origin properties = .built instance_) :
    instance_.type = registered ∨ instance_.capabilities = Capability.none := by
  cases kind
  case untypedCipher => exact absurd rfl typed
  case emptyCreator => cases created
  case refusing =>
    simp only [AlgorithmKind.creator?, Option.some.injEq] at created
    subst created
    cases built
  case emptyInstance =>
    simp only [AlgorithmKind.creator?, Option.some.injEq] at created
    subst created
    cases built
    exact Or.inr rfl
  case keyedCipher =>
    simp only [AlgorithmKind.creator?, Option.some.injEq] at created
    subst created
    dsimp only at built
    split at built
    · cases built
      exact Or.inl rfl
    · cases built
  all_goals
    simp only [AlgorithmKind.creator?, Option.some.injEq] at created
    subst created
    simp only [AlgorithmKind.object?, Creation.built.injEq] at built
    subst built
    exact Or.inl rfl

@[simp] theorem registerAll_nil : registry.registerAll [] = ([], registry) := rfl

theorem registerAll_cons (call : String × Option Creator) (rest : List (String × Option Creator)) :
    registry.registerAll (call :: rest) =
      ((registry.register call.1 call.2).1 ::
          ((registry.register call.1 call.2).2.registerAll rest).1,
        ((registry.register call.1 call.2).2.registerAll rest).2) := rfl

theorem length_registerAll (registry : AlgorithmRegistry) (calls : List (String × Option Creator)) :
    (registry.registerAll calls).1.length = calls.length := by
  induction calls generalizing registry with
  | nil => rfl
  | cons call rest ih => simp [registerAll_cons, ih]

theorem registerAll_append (registry : AlgorithmRegistry)
    (calls more : List (String × Option Creator)) :
    registry.registerAll (calls ++ more) =
      ((registry.registerAll calls).1 ++ ((registry.registerAll calls).2.registerAll more).1,
        ((registry.registerAll calls).2.registerAll more).2) := by
  induction calls generalizing registry with
  | nil => rfl
  | cons call rest ih => simp [registerAll_cons, ih]

theorem takenOf_cons (call : String × Option Creator) (calls : List (String × Option Creator))
    (reply : Bool) (replies : List Bool) :
    takenOf (call :: calls) (reply :: replies) =
      (if reply then (call.2.map (call.1, ·)).toList else []) ++ takenOf calls replies := by
  obtain ⟨registered, offered⟩ := call
  cases reply <;> cases offered <;> simp [takenOf]

theorem takenOf_registerAll_append (registry : AlgorithmRegistry)
    (calls more : List (String × Option Creator)) :
    takenOf calls (registry.registerAll (calls ++ more)).1 =
      takenOf calls (registry.registerAll calls).1 := by
  have aligned : (calls ++ []).zip ((registry.registerAll calls).1 ++
      ((registry.registerAll calls).2.registerAll more).1) =
      calls.zip (registry.registerAll calls).1 ++ [] :=
    List.zip_append (length_registerAll registry calls).symm
  rw [List.append_nil, List.append_nil] at aligned
  simp only [takenOf, registerAll_append, aligned]

theorem creators_registerAll (registry : AlgorithmRegistry)
    (calls : List (String × Option Creator)) :
    (registry.registerAll calls).2.creators =
      registry.creators ++
        (takenOf calls (registry.registerAll calls).1).map
          fun entry => (Text.upperAscii entry.1, entry.2) := by
  induction calls generalizing registry with
  | nil => simp [takenOf]
  | cons call rest ih =>
    obtain ⟨registered, offered⟩ := call
    rw [registerAll_cons, ih, register_creators, takenOf_cons]
    cases (registry.register registered offered).1 <;> cases offered <;> simp

theorem registerAll_fst_getElem? (registry : AlgorithmRegistry)
    {calls before after : List (String × Option Creator)} {call : String × Option Creator}
    (split : calls = before ++ call :: after) :
    (registry.registerAll calls).1[before.length]? =
      some ((registry.registerAll before).2.register call.1 call.2).1 := by
  subst split
  rw [registerAll_append, registerAll_cons]
  simp [length_registerAll]

theorem nodup_creators_registerAll (registry : AlgorithmRegistry)
    (distinct : (registry.creators.map (·.1)).Nodup) (calls : List (String × Option Creator)) :
    ((registry.registerAll calls).2.creators.map (·.1)).Nodup := by
  induction calls generalizing registry with
  | nil => exact distinct
  | cons call rest ih =>
    apply ih
    rw [register_creators]
    cases taken : (registry.register call.1 call.2).1 with
    | false => simpa using distinct
    | true =>
      -- a taken type was not registered before
      obtain ⟨-, offered, fresh⟩ := register_fst_eq_true_iff.mp taken
      obtain ⟨made, hmade⟩ := Option.isSome_iff_exists.mp offered
      have unseen : ∀ entry ∈ registry.creators, entry.1 ≠ Text.upperAscii call.1 := by
        intro entry member same
        have present : registry.contains call.1 = true := contains_iff.mpr ⟨entry, member, same⟩
        rw [fresh] at present
        cases present
      simpa [hmade, List.nodup_append, distinct] using unseen

theorem ne_empty_of_taken (registry : AlgorithmRegistry) {calls : List (String × Option Creator)}
    {registered : String} {made : Creator}
    (taken : (registered, made) ∈ takenOf calls (registry.registerAll calls).1) :
    registered ≠ "" := by
  induction calls generalizing registry with
  | nil => simp [takenOf] at taken
  | cons call rest ih =>
    rw [registerAll_cons, takenOf_cons] at taken
    rcases List.mem_append.mp taken with first | later
    · cases reply : (registry.register call.1 call.2).1 with
      | false => simp [reply] at first
      | true =>
        simp only [reply, if_true, Option.mem_toList, Option.map_eq_some_iff, Prod.mk.injEq]
          at first
        obtain ⟨_, -, rfl, -⟩ := first
        exact (register_fst_eq_true_iff.mp reply).1
    · exact ih _ later

section FromEmpty

variable (calls : List (String × Option Creator))

theorem contains_run_iff (type : String) :
    (empty.registerAll calls).2.contains type = true ↔
      ∃ entry ∈ takenOf calls (empty.registerAll calls).1,
        Text.upperAscii entry.1 = Text.upperAscii type := by
  rw [contains_iff, creators_registerAll]
  simp only [empty, List.nil_append, List.mem_map]
  constructor
  · rintro ⟨_, ⟨entry, taken, rfl⟩, same⟩
    exact ⟨entry, taken, same⟩
  · rintro ⟨entry, taken, same⟩
    exact ⟨_, ⟨entry, taken, rfl⟩, same⟩

theorem size_run :
    (empty.registerAll calls).2.size = (takenOf calls (empty.registerAll calls).1).length := by
  simp [size, creators_registerAll, empty]

theorem nodup_taken_run :
    ((takenOf calls (empty.registerAll calls).1).map
      fun entry => Text.upperAscii entry.1).Nodup := by
  have distinct := nodup_creators_registerAll empty List.nodup_nil calls
  rw [creators_registerAll] at distinct
  simpa [empty, Function.comp_def] using distinct

theorem reply_run_iff {before after : List (String × Option Creator)}
    {call : String × Option Creator} (split : calls = before ++ call :: after) :
    (empty.registerAll calls).1[before.length]? = some true ↔
      call.1 ≠ "" ∧ call.2.isSome = true ∧
        ∀ entry ∈ takenOf before (empty.registerAll calls).1,
          Text.upperAscii entry.1 ≠ Text.upperAscii call.1 := by
  have earlier : takenOf before (empty.registerAll calls).1 =
      takenOf before (empty.registerAll before).1 := by
    rw [split]
    exact takenOf_registerAll_append empty before (call :: after)
  rw [registerAll_fst_getElem? empty split, Option.some.injEq, register_fst_eq_true_iff, earlier]
  have unseen : (empty.registerAll before).2.contains call.1 = false ↔
      ∀ entry ∈ takenOf before (empty.registerAll before).1,
        Text.upperAscii entry.1 ≠ Text.upperAscii call.1 := by
    rw [← Bool.not_eq_true, contains_run_iff]
    simp
  rw [unseen]

theorem refused_run_keeps {before after : List (String × Option Creator)}
    {call : String × Option Creator} (split : calls = before ++ call :: after)
    (refused : (empty.registerAll calls).1[before.length]? = some false) :
    (empty.registerAll (before ++ [call])).2 = (empty.registerAll before).2 := by
  rw [registerAll_fst_getElem? empty split, Option.some.injEq] at refused
  rw [registerAll_append, registerAll_cons, register_snd_of_refused refused]
  rfl

theorem find?_run_of_taken {registered type : String} {made : Creator}
    (taken : (registered, made) ∈ takenOf calls (empty.registerAll calls).1)
    (same : Text.upperAscii registered = Text.upperAscii type) :
    (empty.registerAll calls).2.find? type = some made := by
  have distinct := nodup_creators_registerAll empty List.nodup_nil calls
  apply find?_of_mem distinct
  rw [creators_registerAll, ← same]
  simp only [empty, List.nil_append, List.mem_map]
  exact ⟨_, taken, rfl⟩

theorem type_of_resolve_run {kind : AlgorithmKind} (typed : kind ≠ .untypedCipher)
    {registered type : String} {made : Creator} (created : kind.creator? registered = some made)
    (taken : (registered, made) ∈ takenOf calls (empty.registerAll calls).1)
    (same : Text.upperAscii registered = Text.upperAscii type) {fresh : Origin}
    {properties : Properties} {instance_ : Instance}
    (resolved : (empty.registerAll calls).2.resolve fresh type properties = .ok instance_) :
    instance_.type = registered := by
  rw [resolve_of_find?_eq_some (find?_run_of_taken calls taken same)] at resolved
  have named := ne_empty_of_taken empty taken
  cases creation : made.create fresh properties with
  | threw what => simp [creation] at resolved
  | refused fault => simp [creation] at resolved
  | built offered =>
    simp only [creation] at resolved
    rcases AlgorithmKind.type_of_creator? typed created creation with typedAs | capabilityLess
    · -- the instance reports the registered type, which is not empty
      have reported : offered.type ≠ "" := typedAs ▸ named
      split at resolved
      · cases resolved
      · obtain rfl : offered = instance_ := by simpa [reported] using resolved
        exact typedAs
    · simp [capabilityLess] at resolved

end FromEmpty

/-- What a run of registrations on an empty registry answers and leaves: which calls it takes,
that a refused call changes nothing, what the registry counts and knows, and what resolving a
type gives. -/
structure RegistrationRecords (calls : List (String × Option Creator)) : Prop where
  length_replies : (empty.registerAll calls).1.length = calls.length
  reply_iff : ∀ before call after, calls = before ++ call :: after →
    ((empty.registerAll calls).1[before.length]? = some true ↔
      call.1 ≠ "" ∧ call.2.isSome = true ∧
        ∀ entry ∈ takenOf before (empty.registerAll calls).1,
          Text.upperAscii entry.1 ≠ Text.upperAscii call.1)
  refused_keeps : ∀ before call after, calls = before ++ call :: after →
    (empty.registerAll calls).1[before.length]? = some false →
    (empty.registerAll (before ++ [call])).2 = (empty.registerAll before).2
  size_eq : (empty.registerAll calls).2.size = (takenOf calls (empty.registerAll calls).1).length
  contains_iff : ∀ type, (empty.registerAll calls).2.contains type = true ↔
    ∃ entry ∈ takenOf calls (empty.registerAll calls).1,
      Text.upperAscii entry.1 = Text.upperAscii type
  taken_distinct :
    ((takenOf calls (empty.registerAll calls).1).map fun entry => Text.upperAscii entry.1).Nodup
  not_found : ∀ type fresh properties, (empty.registerAll calls).2.contains type = false →
    (empty.registerAll calls).2.resolve fresh type properties = .error (.notRegistered type)
  resolve_taken : ∀ registered made type fresh properties,
    (registered, made) ∈ takenOf calls (empty.registerAll calls).1 →
    Text.upperAscii registered = Text.upperAscii type →
    (empty.registerAll calls).2.resolve fresh type properties =
      match made.create fresh properties with
      | .threw what => .error (.initFailed type what)
      | .refused fault => .error fault
      | .built instance_ =>
        if instance_.capabilities = Capability.none then .error (.noCapability type)
        else if instance_.type = "" then .ok { instance_ with type }
        else .ok instance_
  keeps_registered_type : ∀ (kind : AlgorithmKind) registered made type fresh properties instance_,
    kind ≠ .untypedCipher → kind.creator? registered = some made →
    (registered, made) ∈ takenOf calls (empty.registerAll calls).1 →
    Text.upperAscii registered = Text.upperAscii type →
    (empty.registerAll calls).2.resolve fresh type properties = .ok instance_ →
    instance_.type = registered

theorem init_failure_message (type what : String) :
    ∃ lead, (Fault.initFailed type what).message = lead ++ what :=
  ⟨"Failed to initialize encrypt algorithm '" ++ type ++ "': ", by
    show s!"Failed to initialize encrypt algorithm '{type}': {what}" = _
    simp only [toString, String.append_assoc]⟩

/-- After any run of registrations, a call is taken exactly when its type and creator are not
empty and no call taken before it has a type that folds alike, and a refused call changes
nothing; the registry counts the taken calls and knows a type exactly when a taken call's type
folds alike; an unknown type is not found, and a known one runs the creator of its one taken
registration and checks what it made, giving the requested spelling only to an instance of the
empty type. -/
theorem registration_run_records (calls : List (String × Option Creator)) :
    RegistrationRecords calls ∧
      ∀ type what, (Fault.notRegistered type).code = .algorithmNotFound ∧
        (Fault.notRegistered type).context = type ∧
        (Fault.initFailed type what).code = .algorithmInitFailure ∧
        (Fault.initFailed type what).context = type ∧
        (∃ lead, (Fault.initFailed type what).message = lead ++ what) ∧
        (Fault.noCapability type).code = .algorithmInitFailure := by
  refine ⟨?_, fun type what => ⟨rfl, rfl, rfl, rfl, init_failure_message type what, rfl⟩⟩
  exact {
    length_replies := length_registerAll empty calls
    reply_iff := fun _ _ _ split => reply_run_iff calls split
    refused_keeps := fun _ _ _ split refused => refused_run_keeps calls split refused
    size_eq := size_run calls
    contains_iff := contains_run_iff calls
    taken_distinct := nodup_taken_run calls
    not_found := fun _ _ _ unknown => resolve_of_find?_eq_none (find?_eq_none_iff.mpr unknown)
    resolve_taken := fun _ _ _ _ _ taken same =>
      resolve_of_find?_eq_some (find?_run_of_taken calls taken same)
    keeps_registered_type := fun _ _ _ _ _ _ _ typed created taken same resolved =>
      type_of_resolve_run calls typed created taken same resolved }

end AlgorithmRegistry

end ColumnCrypt
