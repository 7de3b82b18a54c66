import RecordMapper.Proofs.Execution.Asking
import RecordMapper.Proofs.Registry.Tables
import RecordMapper.Proofs.Store.Mutations

/-! # The definition that a table ends up with

Models may share a table. Each of them hands its own description of it over, and a store puts the newer one in
the place of the older one, so that after a build a table has the definition of the last of its models.
-/

namespace RecordMapper

open Attempt Results

/-- The last of some models whose table has the given name in a datastore. -/
def Model.lastAt? (models : List Model) (datastore table : String) : Option Model :=
  models.reverse.find? fun model => model.datastore == datastore && model.table == table

namespace Model

variable {models : List Model} {model last : Model} {datastore name : String}

theorem lastAt?_cons (model : Model) (later : List Model) (datastore name : String) :
    lastAt? (model :: later) datastore name = (lastAt? later datastore name).or
      (if model.datastore = datastore ∧ model.table = name then some model else none) := by
  unfold lastAt?
  rw [List.reverse_cons, List.find?_append, List.find?_singleton]
  simp only [Bool.and_eq_true, beq_iff_eq]

theorem lastAt?_eq_some (found : lastAt? models datastore name = some last) :
    last ∈ models ∧ last.datastore = datastore ∧ last.table = name := by
  have here := List.find?_some found
  simp only [Bool.and_eq_true, beq_iff_eq] at here
  exact ⟨List.mem_reverse.mp (List.mem_of_find?_eq_some found), here⟩

theorem exists_lastAt? (member : model ∈ models) :
    ∃ last, lastAt? models model.datastore model.table = some last := by
  rw [← Option.isSome_iff_exists, lastAt?, List.find?_isSome]
  exact ⟨model, List.mem_reverse.mpr member, by simp⟩

end Model

namespace Store

variable {store : Store} {datastore name : String}

/-- The table of a name, if it is there, holds no rows. -/
def Bare (store : Store) (datastore name : String) : Prop :=
  ∀ table, store.table datastore name = .ok table → table.rows = []

theorem define_table_other (store : Store) {datastore other name : String} {definition : TableDefinition}
    (elsewhere : ¬(datastore = other ∧ definition.table = name)) :
    (store.define datastore definition).table other name = store.table other name := by
  unfold define
  rw [table_put, if_neg elsewhere]

/-- A table without rows that is described again has none, and has the new definition. -/
theorem Bare.define {definition : TableDefinition} (bare : store.Bare datastore definition.table) :
    ∃ table, (store.define datastore definition).table datastore definition.table = .ok table ∧
      table.definition = definition ∧ table.rows = [] := by
  unfold Store.define
  dsimp only
  rw [table_put_self]
  cases found : Dictionary.get? (store.tablesOf datastore) definition.table with
  | none => exact ⟨_, rfl, rfl, rfl⟩
  | some table =>
    have stored : store.table datastore definition.table = .ok table := by rw [Store.table, found]
    exact ⟨_, rfl, rfl, bare table stored⟩

end Store

/-- An adapter does nothing to the store at a place but ask it, and describes no table to it. -/
structure Adapter.Apart {σ : Type} (adapter : Adapter σ) (place : Store.Place σ) : Prop where
  define : ∀ datastore definition environment,
    place.part (adapter.define datastore definition environment).2 = place.part environment
  answer : adapter.OnlyAsks place

/-- The adapters and hooks that a registry is built from do nothing to the store at a place but ask it, the
adapter of the store itself apart. -/
structure Store.Place.Respected {σ : Type} (place : Store.Place σ) (adapters : Dictionary (Adapter σ))
    (hooks : Dictionary (Hooks σ)) : Prop where
  adapters : ∀ entry ∈ adapters, entry.2 = place.adapter ∨ entry.2.Apart place
  hooks : ∀ entry ∈ hooks, entry.2.OnlyAsk place

namespace Registry

variable {σ : Type} {configuration : Configuration} {adapters : Dictionary (Adapter σ)}
  {hooks : Dictionary (Hooks σ)} {place : Store.Place σ}

/-- The store at a place after the table of a model was handed over. -/
theorem part_handed (respected : place.Respected adapters hooks) {model : Model} {adapter : Adapter σ}
    (placed : adapterOf configuration.datastores adapters model = .ok adapter) (run : Run σ) :
    adapter = place.adapter ∧ place.part (handed adapter model run).environment =
        (place.part run.environment).define model.datastore (.ofModel model (Columns.ofModel model)) ∨
      place.part (handed adapter model run).environment = place.part run.environment := by
  obtain ⟨known, -, isKnown⟩ := Option.bind_eq_some_iff.mp (adapterOf_eq_ok placed)
  rcases respected.adapters _ (Dictionary.mem_of_get? isKnown) with inStore | apart
  · refine .inl ⟨inStore, ?_⟩
    dsimp only at inStore
    rw [inStore]
    exact place.part_put ..
  · exact .inr (apart.define _ _ _)

/-- A table without rows that is handed over has none, and has the definition of its model. -/
theorem table_handed {model : Model} (run : Run σ)
    (bare : (place.part run.environment).Bare model.datastore model.table) :
    ∃ table, (place.part (handed place.adapter model run).environment).table model.datastore model.table =
        .ok table ∧ table.definition = .ofModel model (Columns.ofModel model) ∧ table.rows = [] := by
  have described : place.part (handed place.adapter model run).environment =
      (place.part run.environment).define model.datastore (.ofModel model (Columns.ofModel model)) :=
    place.part_put ..
  rw [described]
  exact Store.Bare.define bare

/-- Handing over a table leaves all others alone. -/
theorem table_handed_other (respected : place.Respected adapters hooks) {model : Model} {adapter : Adapter σ}
    (placed : adapterOf configuration.datastores adapters model = .ok adapter) (run : Run σ)
    {datastore name : String} (elsewhere : ¬(model.datastore = datastore ∧ model.table = name)) :
    (place.part (handed adapter model run).environment).table datastore name =
      (place.part run.environment).table datastore name := by
  rcases part_handed respected placed run with ⟨-, described⟩ | same
  · rw [described, Store.define_table_other _ elsewhere]
  · rw [same]

/-- Handing tables over leaves the keys of a store alone. -/
theorem HandsOver.keys_eq {models : List Model} {run after : Run σ} {outcome : Except InitError Unit}
    (hands : HandsOver configuration adapters models run outcome after)
    (respected : place.Respected adapters hooks) :
    (place.part after.environment).keys = (place.part run.environment).keys := by
  have step {model : Model} {adapter : Adapter σ}
      (placed : adapterOf configuration.datastores adapters model = .ok adapter) (run : Run σ) :
      (place.part (handed adapter model run).environment).keys = (place.part run.environment).keys := by
    rcases part_handed respected placed run with ⟨-, described⟩ | same
    · rw [described]
      rfl
    · rw [same]
  induction hands with
  | nothing | unplaced => rfl
  | rejected placed => exact step placed _
  | taken placed _ _ ih => exact ih.trans (step placed _)

/-- A table of a datastore that is kept in a store has the definition of the last model that handed it over,
and no rows, if it had none before. A table that no model hands over stays as it is. -/
theorem HandsOver.table_eq {models : List Model} {run after : Run σ} {outcome : Except InitError Unit}
    (hands : HandsOver configuration adapters models run outcome after) (done : outcome = .ok ())
    (respected : place.Respected adapters hooks) {datastore name : String}
    (here : ∀ model ∈ models, model.datastore = datastore →
      adapterOf configuration.datastores adapters model = .ok place.adapter)
    (bare : (place.part run.environment).Bare datastore name) :
    (Model.lastAt? models datastore name = none → (place.part after.environment).table datastore name =
      (place.part run.environment).table datastore name) ∧
    ∀ last, Model.lastAt? models datastore name = some last →
      ∃ table, (place.part after.environment).table datastore name = .ok table ∧
        table.definition = .ofModel last (Columns.ofModel last) ∧ table.rows = [] := by
  induction hands with
  | nothing => exact ⟨fun _ => rfl, fun last found => by cases found⟩
  | unplaced | rejected => cases done
  | @taken model later run after adapter outcome placed accepted rest ih =>
    obtain ⟨hereFirst, hereLater⟩ := List.forall_mem_cons.mp here
    rw [Model.lastAt?_cons]
    by_cases isHere : model.datastore = datastore ∧ model.table = name
    · obtain ⟨rfl, rfl⟩ := isHere
      obtain rfl : adapter = place.adapter := Except.ok.inj (placed.symm.trans (hereFirst rfl))
      obtain ⟨table, stored, definition, rows⟩ := table_handed run bare
      have bareAfter : (place.part (handed place.adapter model run).environment).Bare model.datastore model.table :=
        fun other isOther => Except.ok.inj (stored.symm.trans isOther) ▸ rows
      obtain ⟨kept, last⟩ := ih done hereLater bareAfter
      rw [if_pos ⟨rfl, rfl⟩]
      -- the definition stays, unless a later model of the same table puts its own in place
      cases found : Model.lastAt? later model.datastore model.table with
      | none =>
        refine ⟨nofun, ?_⟩
        rintro _ ⟨⟩
        exact ⟨table, (kept found).trans stored, definition, rows⟩
      | some other =>
        refine ⟨nofun, ?_⟩
        rintro _ ⟨⟩
        exact last other found
    · have same := table_handed_other respected placed run isHere
      obtain ⟨kept, last⟩ := ih done hereLater fun table stored => bare table (same ▸ stored)
      rw [if_neg isHere, Option.or_none]
      exact ⟨fun none => (kept none).trans same, last⟩

/-- A registered model has the adapter of its datastore and the hooks under its identity. -/
theorem placed_of_register {model : Model} {run after : Run σ} {registered : RegisteredModel σ}
    (done : result (register configuration adapters hooks model) run = (.ok registered, after)) :
    registered.model = model ∧
      adapterOf configuration.datastores adapters registered.model = .ok registered.adapter ∧
      registered.hooks = (Dictionary.get? hooks registered.identity).getD {} := by
  rw [result_register] at done
  cases placed : adapterOf configuration.datastores adapters model with
  | error error =>
    simp only [placed] at done
    cases done
  | ok adapter =>
    simp only [placed] at done
    split at done
    · cases done
    · obtain ⟨same, -⟩ := Prod.mk.inj done
      obtain rfl := Except.ok.inj same
      exact ⟨rfl, placed, rfl⟩

theorem placed_of_build {registry : Registry σ} {start finish : Run σ}
    (built : result (build configuration adapters hooks) start = (.ok registry, finish)) {identity : String}
    {registered : RegisteredModel σ} (found : registry.model? identity = some registered) :
    adapterOf configuration.datastores adapters registered.model = .ok registered.adapter ∧
      registered.hooks = (Dictionary.get? hooks registered.identity).getD {} := by
  unfold build at built
  obtain ⟨⟨⟩, between, -, built⟩ := result_bind_eq_ok.mp built
  obtain ⟨models, after, mapped, built⟩ := result_bind_eq_ok.mp built
  obtain ⟨rfl, rfl⟩ := result_pure_eq_ok.mp built
  obtain ⟨_, isModel, same⟩ := List.mem_map.mp (Dictionary.mem_of_get?_ofList found)
  obtain ⟨-, rfl⟩ := Prod.mk.inj same
  exact (Attempt.mapM_eq_ok (fun _ _ _ _ => placed_of_register) mapped).2 _ isModel

/-- The models of a registry do nothing to a store but ask it, if what it is built from does not. -/
theorem onlyAsks_of_build {registry : Registry σ} {start finish : Run σ}
    (built : result (build configuration adapters hooks) start = (.ok registry, finish))
    (respected : place.Respected adapters hooks) : registry.OnlyAsks place := by
  intro identity registered found
  obtain ⟨placed, areHooks⟩ := placed_of_build built found
  constructor
  · rw [areHooks]
    cases given : Dictionary.get? hooks registered.identity with
    | none => exact Hooks.onlyAsk_none place
    | some hooks => exact respected.hooks _ (Dictionary.mem_of_get? given)
  · obtain ⟨known, -, isKnown⟩ := Option.bind_eq_some_iff.mp (adapterOf_eq_ok placed)
    rcases respected.adapters _ (Dictionary.mem_of_get? isKnown) with inStore | apart
    · dsimp only at inStore
      rw [inStore]
      exact place.adapter_onlyAsks
    · exact apart.answer

/-- After a build, the table of a model that is kept in a store has the definition of the last model of that
table, and no rows, if it had none before; and the keys of the store are as they were. -/
theorem table_of_build {registry : Registry σ} {start finish : Run σ}
    (built : result (build configuration adapters hooks) start = (.ok registry, finish))
    (respected : place.Respected adapters hooks) {identity : String} {registered : RegisteredModel σ}
    (found : registry.model? identity = some registered) (inStore : registered.adapter = place.adapter)
    (bare : (place.part start.environment).Bare registered.datastore registered.model.table) :
    (place.part finish.environment).keys = (place.part start.environment).keys ∧
      ∃ last table, Model.lastAt? configuration.models registered.datastore registered.model.table = some last ∧
        (place.part finish.environment).table registered.datastore registered.model.table = .ok table ∧
        table.definition = .ofModel last (Columns.ofModel last) ∧ table.rows = [] := by
  have holds := built_of_build built
  have member : registered.model ∈ configuration.models := List.mem_of_find?_eq_some (holds.find?_of_model? found)
  obtain ⟨last, isLast⟩ := Model.exists_lastAt? member
  have placed := (placed_of_build built found).1
  rcases handsOver_of_build built with ⟨error, -, same, -⟩ | ⟨-, hands⟩
  · cases same
  · refine ⟨hands.keys_eq respected, last, ?_⟩
    have here : ∀ model ∈ configuration.models, model.datastore = registered.datastore →
        adapterOf configuration.datastores adapters model = .ok place.adapter := by
      intro model _ together
      obtain ⟨known, isDatastore, isKnown⟩ := Option.bind_eq_some_iff.mp (adapterOf_eq_ok placed)
      have sameDatastore : Dictionary.get? configuration.datastores model.datastore = some known :=
        together ▸ isDatastore
      simp only [adapterOf, sameDatastore, isKnown, inStore]
    obtain ⟨table, stored, definition, rows⟩ := (hands.table_eq rfl respected here bare).2 last isLast
    exact ⟨table, isLast, stored, definition, rows⟩

end Registry

end RecordMapper
