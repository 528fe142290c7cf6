import ColumnCrypt.Proofs.Build

/-!
What a built table holds: each column comes from the configured column of its position, with the
handles filed for its encryptors, and a column found by its name is the one built from it.
-/

namespace ColumnCrypt

theorem find?_rel_of_forall₂ {α β : Type} {relation : α → β → Prop} {test : α → Bool}
    {test' : β → Bool} (agree : ∀ item item', relation item item' → test item = test' item')
    {items : List α} {items' : List β} (related : List.Forall₂ relation items items') :
    Option.Rel relation (items.find? test) (items'.find? test') := by
  induction related with
  | nil => exact .none
  | @cons item item' _ _ first _ ih =>
    rw [List.find?_cons, List.find?_cons, agree item item' first]
    cases test' item' with
    | true => exact .some first
    | false => exact ih

theorem exists_of_rel_some {α β : Type} {relation : α → β → Prop} {left : Option α} {item' : β}
    (related : Option.Rel relation left (some item')) :
    ∃ item, left = some item ∧ relation item item' := by
  cases related with
  | some holds => exact ⟨_, rfl, holds⟩

theorem isSome_eq_of_rel {α β : Type} {relation : α → β → Prop} {left : Option α}
    {right : Option β} (related : Option.Rel relation left right) : left.isSome = right.isSome := by
  cases related with
  | none => rfl
  | some _ => rfl

namespace Table

def Binding.Follows {α : Type} (find : String → Option (Handle α)) (item : ItemConfig)
    (binding : Binding α) : Prop :=
  binding.encryptor = item.encryptor ∧ find item.encryptor = some binding.handle

/-- A built column follows its configuration, role by role. -/
def Follows (registry : CapabilityRegistry) (config : ColumnConfig) (column : Column) : Prop :=
  column.name = config.name ∧
    Binding.Follows registry.findCipher? config.cipher column.cipher ∧
    Option.Rel (Binding.Follows registry.findAssistedQuery?) config.assistedQuery
      column.assistedQuery ∧
    Option.Rel (Binding.Follows registry.findLikeQuery?) config.likeQuery column.likeQuery

variable {registry : CapabilityRegistry} {table : String}

theorem bindItem_eq_ok {α : Type} {role : Role} {find : String → Option (Handle α)}
    {column suffix : String} {item : Option ItemConfig} {bound : Option (Binding α)}
    (bindingFound : bindItem role find table column suffix item = .ok bound) :
    Option.Rel (Binding.Follows find) item bound := by
  cases item with
  | none =>
    cases bindingFound
    exact .none
  | some item =>
    simp only [bindItem] at bindingFound
    cases filed : find item.encryptor with
    | none => simp [filed] at bindingFound
    | some handle =>
      simp only [filed, Except.ok.injEq] at bindingFound
      subst bound
      exact .some ⟨rfl, filed⟩

theorem addColumn_eq_ok {progress next : Progress} {config : ColumnConfig}
    (added : addColumn table registry progress config = .ok next) :
    (∀ column ∈ progress.columns, column.name ≠ config.name) ∧
      ∃ column, Follows registry config column ∧ next.columns = progress.columns ++ [column] := by
  simp only [addColumn] at added
  split at added
  · simp at added
  split at added
  · simp at added
  rename_i unseen
  have fresh : ∀ column ∈ progress.columns, column.name ≠ config.name := by
    simpa using unseen
  split at added
  · rename_i cipher filed
    obtain ⟨assisted, assistedBound, added⟩ := except_bind_eq_ok.mp added
    obtain ⟨like, likeBound, added⟩ := except_bind_eq_ok.mp added
    obtain ⟨claimed, -, added⟩ := except_bind_eq_ok.mp added
    split at added
    · simp at added
    · rw [← except_pure_eq_ok.mp added]
      refine ⟨fresh, _, ?_, rfl⟩
      exact ⟨rfl, ⟨rfl, filed⟩, bindItem_eq_ok assistedBound, bindItem_eq_ok likeBound⟩
  · simp at added

theorem foldlM_addColumn_eq_ok {configs : List ColumnConfig} {progress result : Progress}
    (ran : configs.foldlM (addColumn table registry) progress = .ok result) :
    (configs.map (·.name)).Nodup ∧
      (∀ column ∈ progress.columns, ∀ config ∈ configs, column.name ≠ config.name) ∧
      ∃ columns, List.Forall₂ (Follows registry) configs columns ∧
        result.columns = progress.columns ++ columns := by
  induction configs generalizing progress with
  | nil =>
    simp only [List.foldlM_nil, except_pure_eq_ok] at ran
    subst ran
    exact ⟨List.nodup_nil, by simp, [], .nil, by simp⟩
  | cons config rest ih =>
    simp only [List.foldlM_cons, except_bind_eq_ok] at ran
    obtain ⟨next, added, ranRest⟩ := ran
    obtain ⟨fresh, column, follows, grown⟩ := addColumn_eq_ok added
    obtain ⟨restNodup, restFresh, columns, restFollow, result⟩ := ih ranRest
    have named : column.name = config.name := follows.1
    refine ⟨?_, ?_, column :: columns, .cons follows restFollow, by simp [result, grown]⟩
    · refine List.nodup_cons.mpr ⟨?_, restNodup⟩
      intro repeated
      obtain ⟨other, otherMember, same⟩ := List.mem_map.mp repeated
      exact restFresh column (by simp [grown]) other otherMember (named.trans same.symm)
    · intro old member other otherMember
      rcases List.mem_cons.mp otherMember with rfl | later
      · exact fresh old member
      · exact restFresh old (by simp [grown, member]) other later

theorem build_eq_ok {config : TableConfig} {built : Table}
    (succeeded : Table.build config registry = .ok built) :
    built.name = config.name ∧ List.Forall₂ (Follows registry) config.columns built.columns ∧
      (config.columns.map (·.name)).Nodup := by
  simp only [Table.build] at succeeded
  split at succeeded
  · simp at succeeded
  obtain ⟨progress, ran, made⟩ := except_bind_eq_ok.mp succeeded
  obtain ⟨nodup, -, columns, follow, grown⟩ := foldlM_addColumn_eq_ok ran
  rw [← except_pure_eq_ok.mp made]
  exact ⟨rfl, by simpa [grown] using follow, nodup⟩

/-- Looking a column up by its exact logic name finds the column built from the configured
column of that name. -/
theorem column?_rel_of_build {config : TableConfig} {built : Table}
    (succeeded : Table.build config registry = .ok built) (logic : String) :
    Option.Rel (Follows registry) (config.columns.find? (·.name = logic)) (built.column? logic) :=
  find?_rel_of_forall₂ (fun _ _ follows => by simp [follows.1]) (build_eq_ok succeeded).2.1

end Table

end ColumnCrypt
