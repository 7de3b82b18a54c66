import RecordMapper.Proofs.Execution.Run
import RecordMapper.Proofs.Model.Columns
import RecordMapper.Registry.Build

/-! # What a registry holds

A registry that was built holds the models of its configuration, each under its identity, with the
columns that the model declares, and all of them are valid.
-/

namespace RecordMapper

open Results

/-- Users with their pets, in one datastore; the name of a user has a column of another name. -/
def Configuration.usersAndPets : Configuration where
  datastores := [("default", { adapter := "memory" })]
  models := [
    { identity := "user", datastore := "default"
      attributes := [("id", .ofType .number), ("name", { Attribute.ofType .string with column := some "full_name" }),
        ("pets", .hasMany "pet" "owner")] },
    { identity := "pet", datastore := "default"
      attributes := [("id", .ofType .number), ("owner", .belongsTo "user")] }]

namespace Registry

variable {σ : Type}

/-- What holds of the registry of a configuration. -/
structure Built (configuration : Configuration) (registry : Registry σ) : Prop where
  /-- Looking up an identity finds the model that the configuration has of it. -/
  model_eq : ∀ identity,
    (registry.model? identity).map RegisteredModel.model = Model.find? configuration.models identity
  columns_eq : ∀ {identity registered}, registry.model? identity = some registered →
    registered.columns = Columns.ofModel registered.model
  valid : ∀ model ∈ configuration.models, model.Valid configuration.models
  /-- The models of a datastore have one adapter. -/
  adapter_eq : ∀ {identity other first second}, registry.model? identity = some first →
    registry.model? other = some second → first.datastore = second.datastore → first.adapter = second.adapter

theorem duplicate?_eq_none {seen : List String} {models : List Model}
    (distinct : duplicate? seen models = none) :
    (models.map Model.identity).Nodup ∧ ∀ model ∈ models, model.identity ∉ seen := by
  induction models generalizing seen with
  | nil => simp
  | cons model rest ih =>
    simp only [duplicate?] at distinct
    split at distinct
    · cases distinct
    · next fresh =>
      obtain ⟨nodup, apart⟩ := ih distinct
      simp only [List.contains_eq_mem, decide_eq_true_eq] at fresh
      refine ⟨List.nodup_cons.mpr ⟨?_, nodup⟩, ?_⟩
      · intro member
        obtain ⟨other, isOther, same⟩ := List.mem_map.mp member
        exact apart other isOther (same ▸ List.mem_cons_self ..)
      · intro other member
        rcases List.mem_cons.mp member with rfl | member
        · exact fresh
        · exact fun isSeen => apart other member (List.mem_cons_of_mem _ isSeen)

theorem check_eq_ok {models : List Model} {hooks : Dictionary (Hooks σ)}
    (passed : check models hooks = .ok ()) :
    (models.map Model.identity).Nodup ∧ ∀ model ∈ models, model.check models = .ok () := by
  unfold check at passed
  dsimp only at passed
  split at passed
  · cases passed
  · next distinct =>
    split at passed
    · cases passed
    · exact ⟨(duplicate?_eq_none distinct).1, forM_eq_ok.mp passed⟩

theorem adapterOf_eq_ok {datastores : Dictionary Datastore} {adapters : Dictionary (Adapter σ)} {model : Model}
    {adapter : Adapter σ} (done : adapterOf datastores adapters model = .ok adapter) :
    ((Dictionary.get? datastores model.datastore).bind fun datastore =>
      Dictionary.get? adapters datastore.adapter) = some adapter := by
  unfold adapterOf at done
  split at done
  · cases done
  · next datastore found =>
    split at done
    · cases done
    · next known =>
      rw [found, Option.bind_some, known, Except.ok.inj done]

theorem register_eq_ok {configuration : Configuration} {adapters : Dictionary (Adapter σ)}
    {hooks : Dictionary (Hooks σ)} {model : Model} {run after : Run σ} {registered : RegisteredModel σ}
    (done : Attempt.result (register configuration adapters hooks model) run = (.ok registered, after)) :
    registered.model = model ∧ registered.columns = Columns.ofModel registered.model ∧
      ((Dictionary.get? configuration.datastores registered.datastore).bind fun datastore =>
        Dictionary.get? adapters datastore.adapter) = some registered.adapter := by
  unfold register at done
  obtain ⟨adapter, _, isAdapter, done⟩ := Attempt.result_bind_eq_ok.mp done
  obtain ⟨answer, between, -, done⟩ := Attempt.result_bind_eq_ok.mp done
  cases answer with
  | error error => simp at done
  | ok answer =>
    obtain ⟨rfl, -⟩ : _ = registered ∧ between = after := by simpa using done
    exact ⟨rfl, rfl, adapterOf_eq_ok (Attempt.result_ofExcept_eq_ok.mp isAdapter).1⟩

/-- Models under their distinct identities are found as they are in their list. -/
theorem get?_ofList_identity {registered : List (RegisteredModel σ)}
    (nodup : (registered.map RegisteredModel.identity).Nodup) (identity : String) :
    Dictionary.get? (Dictionary.ofList (registered.map fun model => (model.identity, model))) identity =
      registered.find? fun model => model.identity == identity := by
  rw [Dictionary.get?_ofList (by rwa [List.map_map])]
  clear nodup
  induction registered with
  | nil => rfl
  | cons model rest ih =>
    by_cases same : model.identity = identity
    · simp [Dictionary.get?, same]
    · simp [Dictionary.get?, same, ih]

theorem built_of_build {configuration : Configuration} {adapters : Dictionary (Adapter σ)}
    {hooks : Dictionary (Hooks σ)} {run after : Run σ} {registry : Registry σ}
    (done : Attempt.result (build configuration adapters hooks) run = (.ok registry, after)) :
    Built configuration registry := by
  unfold build at done
  obtain ⟨⟨⟩, between, checked, done⟩ := Attempt.result_bind_eq_ok.mp done
  obtain ⟨registered, _, mapped, done⟩ := Attempt.result_bind_eq_ok.mp done
  obtain ⟨rfl, -⟩ : _ = registry ∧ _ = after := by simpa using done
  obtain ⟨passed, -⟩ : check configuration.models hooks = .ok () ∧ run = between := by simpa using checked
  obtain ⟨nodup, valid⟩ := check_eq_ok passed
  obtain ⟨models, each⟩ := Attempt.mapM_eq_ok (fun _ _ _ _ => register_eq_ok) mapped
  have identities : (registered.map RegisteredModel.identity).Nodup := by
    rw [← models, List.map_map] at nodup
    exact nodup
  have look (identity : String) : model? { models := Dictionary.ofList (registered.map fun model =>
      (model.identity, model)) } identity = registered.find? fun model => model.identity == identity :=
    get?_ofList_identity identities identity
  have member {identity : String} {model : RegisteredModel σ}
      (found : model? ⟨Dictionary.ofList (registered.map fun model => (model.identity, model))⟩ identity =
        some model) : model ∈ registered :=
    List.mem_of_find?_eq_some (look identity ▸ found)
  constructor
  · intro identity
    rw [look, Model.find?, ← models, List.find?_map]
    rfl
  · intro identity model found
    exact (each model (member found)).1
  · intro model member
    exact Model.valid_of_check (valid model member)
  · intro identity other first second isFirst isSecond together
    have here := (each first (member isFirst)).2
    have there := (each second (member isSecond)).2
    rw [together] at here
    exact Option.some.inj (here.symm.trans there)

namespace Built

variable {configuration : Configuration} {registry : Registry σ}

theorem find?_of_model? (built : Built configuration registry) {identity : String}
    {registered : RegisteredModel σ} (found : registry.model? identity = some registered) :
    Model.find? configuration.models identity = some registered.model := by
  rw [← built.model_eq, found, Option.map_some]

/-- A model is kept under its identity. -/
theorem identity_eq (built : Built configuration registry) {identity : String}
    {registered : RegisteredModel σ} (found : registry.model? identity = some registered) :
    registered.identity = identity := by
  have named := List.find?_some (built.find?_of_model? found)
  exact eq_of_beq named

theorem valid_of_model? (built : Built configuration registry) {identity : String}
    {registered : RegisteredModel σ} (found : registry.model? identity = some registered) :
    registered.model.Valid configuration.models :=
  built.valid _ (List.mem_of_find?_eq_some (built.find?_of_model? found))

/-- The attributes of a registered model that have a column are the stored ones. -/
theorem exists_column_iff (built : Built configuration registry) {identity name : String}
    {registered : RegisteredModel σ} (found : registry.model? identity = some registered) :
    (∃ column, registered.columns.column name = .ok column) ↔
      name ∈ Dictionary.names registered.model.stored := by
  rw [built.columns_eq found, Columns.exists_column_iff]

end Built

end Registry

end RecordMapper
