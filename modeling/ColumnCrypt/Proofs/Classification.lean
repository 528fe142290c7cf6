import Mathlib.Data.Finset.Card
import ColumnCrypt.Factory

/-!
Runs of classify calls on a capability registry.

Role by role, a name is filed exactly when some call of the name offered an instance that serves
in the role, with the handle of the last such call, while the type kept is that of its last call
(`classify_run_records`). `Role.Algorithm` makes the three roles one family.
-/

namespace ColumnCrypt

namespace Role

def Algorithm : Role → Type
  | cipher => Cipher
  | assistedQuery => AssistedQuery
  | likeQuery => LikeQuery

@[simp] theorem ofCapability?_capability (role : Role) :
    ofCapability? role.capability = some role := by
  cases role <;> rfl

theorem ofCapability?_eq_none {flag : Capability} (other : ∀ role : Role, flag ≠ role.capability) :
    ofCapability? flag = none := by
  have notCipher : flag ≠ Capability.cipher := other cipher
  have notAssisted : flag ≠ Capability.assistedQuery := other assistedQuery
  have notLike : flag ≠ Capability.likeQuery := other likeQuery
  simp [ofCapability?, notCipher, notAssisted, notLike]

end Role

namespace Instance

def handle (made : Instance) : (role : Role) → Option (Handle role.Algorithm)
  | .cipher => made.cipher
  | .assistedQuery => made.assistedQuery
  | .likeQuery => made.likeQuery

/-- An instance serves in a role when it claims the role's capability and has the role's
handle. -/
def serves (made : Instance) (role : Role) : Bool :=
  made.capabilities.has role.capability && (made.handle role).isSome

def single (type : String) : (role : Role) → Option (Handle role.Algorithm) → Instance
  | .cipher, handle => { type, capabilities := Capability.cipher, cipher := handle }
  | .assistedQuery, handle =>
    { type, capabilities := Capability.assistedQuery, assistedQuery := handle }
  | .likeQuery, handle => { type, capabilities := Capability.likeQuery, likeQuery := handle }

theorem isSome_handle_of_serves {made : Instance} {role : Role}
    (serving : made.serves role = true) :
    (made.handle role).isSome = true := by
  simp only [serves, Bool.and_eq_true] at serving
  exact serving.2

end Instance

namespace Dictionary

variable {α : Type}

theorem mem_keys_iff {dictionary : Dictionary α} {key : String} :
    key ∈ dictionary.keys ↔ dictionary.contains key = true := by
  simp [keys, contains]

theorem nodup_keys (dictionary : Dictionary α) : dictionary.keys.Nodup :=
  dictionary.ascending.imp String.ne_of_lt

theorem size_eq_length_keys (dictionary : Dictionary α) :
    dictionary.size = dictionary.keys.length := by
  simp [size, keys]

end Dictionary

namespace CapabilityRegistry

def filed (registry : CapabilityRegistry) : (role : Role) → Dictionary (Handle role.Algorithm)
  | .cipher => registry.ciphers
  | .assistedQuery => registry.assistedQueries
  | .likeQuery => registry.likeQueries

def find? (registry : CapabilityRegistry) (role : Role) (name : String) :
    Option (Handle role.Algorithm) :=
  (registry.filed role).find? name

variable {registry : CapabilityRegistry} {name : String}

@[simp] theorem find?_cipher : registry.find? .cipher name = registry.findCipher? name := rfl

@[simp] theorem find?_assistedQuery :
    registry.find? .assistedQuery name = registry.findAssistedQuery? name := rfl

@[simp] theorem find?_likeQuery : registry.find? .likeQuery name = registry.findLikeQuery? name :=
  rfl

@[simp] theorem filed_classify (made : Instance) (role : Role) :
    (registry.classify name made).filed role =
      fileUnder (registry.filed role) name (made.capabilities.has role.capability)
        (made.handle role) := by
  cases role <;> rfl

@[simp] theorem types_classify (made : Instance) :
    (registry.classify name made).types = registry.types.insert name made.type := rfl

theorem contains_capability (role : Role) :
    registry.contains role.capability name = (registry.filed role).contains name := by
  cases role <;> rfl

theorem size_capability (role : Role) :
    registry.size role.capability = (registry.filed role).size := by
  cases role <;> rfl

theorem resolve?_capability (role : Role) :
    registry.resolve? role.capability name =
      if (registry.filed role).contains name then
        some (Instance.single ((registry.types.find? name).getD "") role (registry.find? role name))
      else none := by
  cases role <;> rfl

section OtherFlag

variable {flag : Capability} (other : ∀ role : Role, flag ≠ role.capability)
include other

theorem contains_of_not_flag : registry.contains flag name = false := by
  simp [contains, Role.ofCapability?_eq_none other]

theorem size_of_not_flag : registry.size flag = 0 := by
  simp [size, Role.ofCapability?_eq_none other]

theorem resolve?_of_not_flag : registry.resolve? flag name = none := by
  simp [resolve?, contains_of_not_flag other]

end OtherFlag

theorem find?_fileUnder_eq {α : Type} (map : Dictionary α) (claims : Bool) (offered : Option α)
    (other : String) :
    (fileUnder map name claims offered).find? other =
      if name = other ∧ (claims && offered.isSome) = true then offered else map.find? other := by
  cases offered with
  | none => simp [fileUnder]
  | some handle =>
    cases claims with
    | false => simp [fileUnder]
    | true =>
      by_cases same : name = other
      · subst same
        simp [fileUnder]
      · simp [fileUnder, same, Dictionary.find?_insert_other _ _ (Ne.symm same)]

theorem find?_classify (made : Instance) (role : Role) (other : String) :
    (registry.classify name made).find? role other =
      if name = other ∧ made.serves role = true then made.handle role
      else registry.find? role other := by
  simp [find?, find?_fileUnder_eq, Instance.serves]

def classifyAll (registry : CapabilityRegistry) (calls : List (String × Instance)) :
    CapabilityRegistry :=
  calls.foldl (fun registry call => registry.classify call.1 call.2) registry

@[simp] theorem classifyAll_nil : registry.classifyAll [] = registry := rfl

@[simp] theorem classifyAll_cons (call : String × Instance) (calls : List (String × Instance)) :
    registry.classifyAll (call :: calls) = (registry.classify call.1 call.2).classifyAll calls :=
  rfl

def lastServing (calls : List (String × Instance)) (role : Role) (name : String) :
    Option Instance :=
  (calls.reverse.find? fun call => call.1 = name && call.2.serves role).map (·.2)

def lastOf (calls : List (String × Instance)) (name : String) : Option Instance :=
  (calls.reverse.find? (·.1 = name)).map (·.2)

variable {calls : List (String × Instance)} {role : Role}

theorem lastServing_cons (call : String × Instance) (calls : List (String × Instance)) :
    lastServing (call :: calls) role name =
      (lastServing calls role name).or
        (if call.1 = name ∧ call.2.serves role = true then some call.2 else none) := by
  simp only [lastServing, List.reverse_cons, List.find?_append]
  cases (calls.reverse.find? fun call => call.1 = name && call.2.serves role) with
  | some later => rfl
  | none => by_cases hit : call.1 = name ∧ call.2.serves role = true <;> simp_all

theorem lastOf_cons (call : String × Instance) (calls : List (String × Instance)) :
    lastOf (call :: calls) name =
      (lastOf calls name).or (if call.1 = name then some call.2 else none) := by
  simp only [lastOf, List.reverse_cons, List.find?_append]
  cases (calls.reverse.find? (·.1 = name)) with
  | some later => rfl
  | none => by_cases hit : call.1 = name <;> simp_all

theorem lastServing_eq_some {made : Instance} (found : lastServing calls role name = some made) :
    (name, made) ∈ calls ∧ made.serves role = true := by
  simp only [lastServing, Option.map_eq_some_iff] at found
  obtain ⟨call, located, rfl⟩ := found
  have member := List.mem_reverse.mp (List.mem_of_find?_eq_some located)
  have picked := List.find?_some located
  simp only [Bool.and_eq_true, decide_eq_true_eq] at picked
  obtain ⟨named, serving⟩ := picked
  exact ⟨named ▸ member, serving⟩

theorem isSome_lastServing_iff :
    (lastServing calls role name).isSome = true ↔
      ∃ made, (name, made) ∈ calls ∧ made.serves role = true := by
  simp [lastServing, List.find?_isSome]

theorem isSome_lastOf_iff :
    (lastOf calls name).isSome = true ↔ ∃ made, (name, made) ∈ calls := by
  simp [lastOf, List.find?_isSome]

theorem find?_classifyAll (start : CapabilityRegistry) (calls : List (String × Instance))
    (role : Role) (name : String) :
    (start.classifyAll calls).find? role name =
      match lastServing calls role name with
      | some made => made.handle role
      | none => start.find? role name := by
  induction calls generalizing start with
  | nil => rfl
  | cons call rest ih =>
    rw [classifyAll_cons, ih, lastServing_cons]
    cases lastServing rest role name with
    | some later => rfl
    | none =>
      rw [Option.none_or, find?_classify]
      by_cases hit : call.1 = name ∧ call.2.serves role = true
      · rw [if_pos hit, if_pos hit]
      · rw [if_neg hit, if_neg hit]

theorem types_find?_classifyAll (start : CapabilityRegistry) (calls : List (String × Instance))
    (name : String) :
    (start.classifyAll calls).types.find? name =
      match lastOf calls name with
      | some made => some made.type
      | none => start.types.find? name := by
  induction calls generalizing start with
  | nil => rfl
  | cons call rest ih =>
    rw [classifyAll_cons, ih, lastOf_cons]
    cases lastOf rest name with
    | some later => rfl
    | none =>
      by_cases hit : call.1 = name
      · subst hit
        simp
      · simp [hit, Dictionary.find?_insert_other _ _ (Ne.symm hit)]

@[simp] theorem find?_empty (role : Role) (name : String) : empty.find? role name = none := by
  cases role <;> rfl

theorem find?_run (calls : List (String × Instance)) (role : Role) (name : String) :
    (empty.classifyAll calls).find? role name =
      (lastServing calls role name).bind (·.handle role) := by
  rw [find?_classifyAll]
  cases lastServing calls role name <;> simp

theorem contains_run_iff (calls : List (String × Instance)) (role : Role) (name : String) :
    (empty.classifyAll calls).contains role.capability name = true ↔
      ∃ made, (name, made) ∈ calls ∧ made.serves role = true := by
  rw [contains_capability, Dictionary.contains_eq_isSome_find?, ← find?, find?_run,
    ← isSome_lastServing_iff]
  cases located : lastServing calls role name with
  | none => simp
  | some made =>
    simpa using Instance.isSome_handle_of_serves (lastServing_eq_some located).2

theorem size_run (calls : List (String × Instance)) (role : Role) :
    (empty.classifyAll calls).size role.capability =
      ((calls.filter (·.2.serves role)).map (·.1)).toFinset.card := by
  rw [size_capability, Dictionary.size_eq_length_keys,
    ← List.toFinset_card_of_nodup (Dictionary.nodup_keys _)]
  congr 1
  ext name
  rw [List.mem_toFinset, List.mem_toFinset, Dictionary.mem_keys_iff, ← contains_capability,
    contains_run_iff]
  simp

theorem resolve?_run_eq_none_iff (calls : List (String × Instance)) (role : Role) (name : String) :
    (empty.classifyAll calls).resolve? role.capability name = none ↔
      (empty.classifyAll calls).contains role.capability name = false := by
  rw [resolve?_capability, contains_capability]
  split <;> simp_all

theorem resolve?_run_of_contains {calls : List (String × Instance)} {role : Role} {name : String}
    (present : (empty.classifyAll calls).contains role.capability name = true) :
    ∃ last handle, lastOf calls name = some last ∧
      (empty.classifyAll calls).find? role name = some handle ∧
      (empty.classifyAll calls).resolve? role.capability name =
        some (Instance.single last.type role (some handle)) := by
  have filed := present
  rw [contains_capability, Dictionary.contains_eq_isSome_find?, ← find?] at filed
  obtain ⟨handle, found⟩ := Option.isSome_iff_exists.mp filed
  obtain ⟨made, member, -⟩ := (contains_run_iff calls role name).mp present
  obtain ⟨last, located⟩ := Option.isSome_iff_exists.mp (isSome_lastOf_iff.mpr ⟨made, member⟩)
  have typed : (empty.classifyAll calls).types.find? name = some last.type := by
    rw [types_find?_classifyAll, located]
  refine ⟨last, handle, located, found, ?_⟩
  rw [resolve?_capability, if_pos (by rwa [contains_capability] at present), typed, found]
  rfl

/-- What a registry holds after a run of classify calls, role by role, and under bytes that are
no role's flag. -/
structure ClassifyRecords (calls : List (String × Instance)) (registry : CapabilityRegistry) :
    Prop where
  contains_iff (role : Role) (name : String) :
    registry.contains role.capability name = true ↔
      ∃ made, (name, made) ∈ calls ∧ made.serves role = true
  find?_eq (role : Role) (name : String) :
    registry.find? role name = (lastServing calls role name).bind (·.handle role)
  size_eq (role : Role) :
    registry.size role.capability = ((calls.filter (·.2.serves role)).map (·.1)).toFinset.card
  resolve?_eq_none_iff (role : Role) (name : String) :
    registry.resolve? role.capability name = none ↔ registry.contains role.capability name = false
  resolve?_of_contains (role : Role) (name : String)
      (present : registry.contains role.capability name = true) :
    ∃ last handle, lastOf calls name = some last ∧ registry.find? role name = some handle ∧
      registry.resolve? role.capability name = some (Instance.single last.type role (some handle))
  other_flag (flag : Capability) (other : ∀ role : Role, flag ≠ role.capability) (name : String) :
    registry.contains flag name = false ∧ registry.size flag = 0 ∧
      registry.resolve? flag name = none

/-- After any run of classify calls on an empty registry, a name is filed in a role exactly when
some call of the name served in it, with the handle of the last such call; a role counts the
distinct names filed in it; resolving a filed name gives the type of the name's last call, the
role's flag and the role's handle alone; and a byte that is no role's flag finds nothing. -/
theorem classify_run_records (calls : List (String × Instance)) :
    ClassifyRecords calls (empty.classifyAll calls) where
  contains_iff := contains_run_iff calls
  find?_eq := find?_run calls
  size_eq := size_run calls
  resolve?_eq_none_iff := resolve?_run_eq_none_iff calls
  resolve?_of_contains _ _ present := resolve?_run_of_contains present
  other_flag _ other _ :=
    ⟨contains_of_not_flag other, size_of_not_flag other, resolve?_of_not_flag other⟩

/- Classifying a cipher and then an assisted-query algorithm under one name: the cipher stays
filed, and resolving it reports the later type. -/
example :
    (empty.classifyAll
        [("e", Instance.ofHandles "A" (some ⟨.shared "A", .marking "enc:"⟩) none none),
         ("e", Instance.ofHandles "B" none (some ⟨.shared "B", .marking⟩) none)]).resolve?
      Capability.cipher "e" =
      some { type := "B", capabilities := Capability.cipher,
             cipher := some ⟨.shared "A", .marking "enc:"⟩ } := by
  rfl

end CapabilityRegistry

end ColumnCrypt
