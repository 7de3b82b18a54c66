import RecordMapper.Proofs.Execution.Mutating
import RecordMapper.Proofs.Model.Twins
import RecordMapper.Proofs.Registry.Overwriting

/-! # Which columns are kept distinct

A model declares that the values of its key and of its unique attributes are distinct. A store keeps up what the
definition of the table says, and that is the definition of the last model of the table. So what a model declares is
in force exactly if the last model of its table declares the same of the column; if it does not, then the twins of
the model break it at once.
-/

namespace RecordMapper

open Attempt Results

variable {σ : Type}

/-- A column whose values a model declares to be distinct: that of its key, or of a unique attribute. -/
def RegisteredModel.Declares (registered : RegisteredModel σ) (column : String) : Prop :=
  ∃ name, registered.columns.column name = .ok column ∧
    (name = registered.model.primaryKey ∨
      ∃ declared, registered.model.attribute? name = some declared ∧ declared.unique = true)

/-- A query that adds records or overwrites them. -/
def Description.Writes (query : Description σ) : Prop :=
  query.method = .create ∨ query.method = .createEach ∨ query.method = .update

theorem Description.Writes.notStream {query : Description σ} (writes : query.Writes) : query.method ≠ .stream := by
  rcases writes with method | method | method
  all_goals
    rw [method]
    decide

namespace Registry

variable {registry : Registry σ} {registered : RegisteredModel σ} {place : Store.Place σ}

/-- The outcome of adding the rows of twins to an empty table agrees in the column that they share, and it is
admitted if that column is none of the distinct ones. -/
theorem twins_outcome {models : List Model} (valid : registered.model.Valid models)
    (ofModel : registered.columns = Columns.ofModel registered.model) {table : Table} (empty : table.rows = [])
    {supply : KeySupply} (draws : Function.Injective supply.draw) {shared column : String}
    (isColumn : registered.columns.column shared = .ok column)
    (free : column ∉ table.definition.distinctColumns) :
    let rows := table.rows ++ table.keyedAll supply
      [registered.columns.rowOf (registered.model.twin shared false),
        registered.columns.rowOf (registered.model.twin shared true)]
    table.definition.Admits rows ∧ ¬Record.DistinctIn column rows := by
  rw [ofModel] at isColumn ⊢
  -- twins that are alike in the key column are given different keys, so they agree in no column but the shared one
  have alike := Model.has_twins_iff valid shared table.definition.primaryKey
  have agree := Model.agree_twins_iff valid isColumn
  generalize (Columns.ofModel registered.model).rowOf (registered.model.twin shared false) = first at alike agree
  generalize (Columns.ofModel registered.model).rowOf (registered.model.twin shared true) = second at alike agree
  rw [empty, List.nil_append]
  simp only [Table.keyedAll, TableDefinition.admits_iff, Record.DistinctIn, List.pairwise_pair]
  constructor
  · intro other member agreeKeyed
    rw [(agree other).mp (Table.agree_of_agree_keyed draws alike agreeKeyed)] at member
    exact free member
  · rw [not_not]
    have apart : table.definition.primaryKey ≠ column := by
      rintro rfl
      exact free ((TableDefinition.mem_distinctColumns ..).mpr (.inl rfl))
    have firstKeyed := table.keyed_spec supply first
    have secondKeyed := (table.keyed supply first).2.1.keyed_spec (table.keyed supply first).2.2 second
    rw [Table.keyed_definition] at secondKeyed
    refine (Record.agree_congr ?_ ?_).mpr ((agree column).mpr rfl)
    · exact firstKeyed.get?_other apart
    · exact secondKeyed.get?_other apart

/-- If a column is none of the distinct ones of an empty table, then the twins of a model that share its attribute
are added to the table. -/
theorem execute_createTwins {models : List Model} (valid : registered.model.Valid models)
    (ofModel : registered.columns = Columns.ofModel registered.model)
    (found : registry.model? registered.model.identity = some registered)
    (inStore : registered.adapter = place.adapter) {run : Run σ} {table : Table}
    (stored : (place.part run.environment).table registered.datastore registered.model.table = .ok table)
    (empty : table.rows = []) (draws : Function.Injective (place.part run.environment).keys.draw)
    {shared column : String} (isColumn : registered.columns.column shared = .ok column)
    (free : column ∉ table.definition.distinctColumns) (now : Instant) :
    let after := (result (registry.execute now (registered.model.createTwins shared)) run).2
    ∃ rows, (place.part after.environment).rows registered.datastore registered.model.table = .ok rows ∧
      ¬Record.DistinctIn column rows := by
  have compiled := RegisteredModel.compile_createTwins found shared now
  have lowered : (registered.model.addTwins shared).lower registered registry = _ :=
    RegisteredModel.lower_addTwins ofModel shared
  obtain ⟨admits, clash⟩ := twins_outcome valid ofModel empty draws isColumn free
  obtain ⟨written, after, executed, isWritten, -, rows⟩ :=
    execute_of_admitted found inStore (.inl rfl) rfl stored compiled lowered admits
  refine ⟨written.rows, ?_, rows ▸ clash⟩
  rw [executed, Store.rows, isWritten]
  rfl

/-- What the definition of a table keeps up, operations other than streams keep up. -/
theorem keeps_after (asks : registry.OnlyAsks place) {run : Run σ} {datastore : String}
    {definition : TableDefinition} (keeps : (place.part run.environment).Keeps datastore definition)
    {operations : List (Instant × Description σ)}
    (notStream : ∀ operation ∈ operations, operation.2.method ≠ .stream) :
    (place.part (registry.after run operations).environment).Keeps datastore definition := by
  obtain ⟨queries, asked⟩ := after_asked asks notStream run
  rw [asked]
  exact keeps.after queries

/-- What a model declares distinct is in force exactly where the last model of its table has the same column
distinct. After a build, the table of a model that is kept in a store has the definition of that last model,
and whatever operations run, its rows are admitted by it. A column that the model declares distinct stays so
over all runs of creates and updates if that definition has it among its distinct columns; and if not, some
create gives two rows of the table one value in it. -/
theorem declared_enforced_iff {configuration : Configuration} {adapters : Dictionary (Adapter σ)}
    {hooks : Dictionary (Hooks σ)} {start finish : Run σ}
    (built : result (build configuration adapters hooks) start = (.ok registry, finish))
    (respected : place.Respected adapters hooks) {identity : String}
    (found : registry.model? identity = some registered) (inStore : registered.adapter = place.adapter)
    (bare : (place.part start.environment).Bare registered.datastore registered.model.table)
    (draws : Function.Injective (place.part start.environment).keys.draw) :
    ∃ last, Model.lastAt? configuration.models registered.datastore registered.model.table = some last ∧
      (∀ operations, (∀ operation ∈ operations, operation.2.method ≠ .stream) →
        ∃ table, (place.part (registry.after finish operations).environment).table registered.datastore
            registered.model.table = .ok table ∧
          table.definition = .ofModel last (Columns.ofModel last) ∧ table.definition.Admits table.rows) ∧
      ∀ column, registered.Declares column →
        ((∀ operations, (∀ operation ∈ operations, operation.2.Writes) → ∀ rows,
            (place.part (registry.after finish operations).environment).rows registered.datastore
              registered.model.table = .ok rows → Record.DistinctIn column rows) ↔
          column ∈ (TableDefinition.ofModel last (Columns.ofModel last)).distinctColumns) := by
  obtain ⟨keys, last, table, isLast, stored, definition, empty⟩ :=
    table_of_build built respected found inStore bare
  obtain ⟨-, -, sameTable⟩ := Model.lastAt?_eq_some isLast
  have keeps :
      (place.part finish.environment).Keeps registered.datastore (.ofModel last (Columns.ofModel last)) :=
    ⟨table, (congrArg _ sameTable).trans stored, definition, fun _ _ => empty ▸ List.Pairwise.nil⟩
  have enforced : ∀ operations, (∀ operation ∈ operations, operation.2.method ≠ .stream) →
      ∃ table, (place.part (registry.after finish operations).environment).table registered.datastore
          registered.model.table = .ok table ∧
        table.definition = .ofModel last (Columns.ofModel last) ∧ table.definition.Admits table.rows := by
    intro operations notStream
    obtain ⟨table, stored, definition, admits⟩ :=
      keeps_after (onlyAsks_of_build built respected) keeps notStream
    exact ⟨table, (congrArg _ sameTable.symm).trans stored, definition, definition ▸ admits⟩
  refine ⟨last, isLast, enforced, fun column declares => ⟨fun distinct => ?_, ?_⟩⟩
  · -- right after the build the table is empty, and the twins of the model fit in
    by_contra free
    obtain ⟨shared, isColumn, -⟩ := declares
    have holds := built_of_build built
    have itself : registry.model? registered.model.identity = some registered := by
      rwa [show registered.model.identity = identity from holds.identity_eq found]
    obtain ⟨rows, isRows, clash⟩ := execute_createTwins (holds.valid_of_model? found)
      (holds.columns_eq found) itself inStore stored empty (keys ▸ draws) isColumn (definition ▸ free) ⟨0⟩
    refine clash (distinct [(⟨0⟩, registered.model.createTwins shared)] ?_ rows isRows)
    rintro operation member
    obtain rfl := List.mem_singleton.mp member
    exact .inr (.inl rfl)
  · intro member operations writes rows isRows
    obtain ⟨table, stored, definition, admits⟩ :=
      enforced operations fun operation isOperation => (writes operation isOperation).notStream
    rw [Store.rows, stored] at isRows
    rw [← Except.ok.inj isRows]
    exact TableDefinition.admits_iff.mp admits column (definition ▸ member)

/-- Accounts with distinct addresses, and users in the same table whose addresses need not be distinct. -/
def accountsAsUsers : Configuration where
  datastores := [("default", { adapter := "memory" })]
  models := [
    { identity := "account", datastore := "default", tableName := some "users"
      attributes := [("email", { Attribute.ofType .string with unique := true }), ("id", .ofType .number)] },
    { identity := "user", datastore := "default", tableName := some "users"
      attributes := [("email", .ofType .string), ("id", .ofType .number)] }]

/-- The addresses of accounts are declared distinct, but creates can give two rows the same one. -/
theorem accountsAsUsers_not_enforced :
    ∃ (registry : Registry Store) (start finish : Run Store) (registered : RegisteredModel Store)
      (operations : List (Instant × Description Store)) (rows : List Record),
      result (build accountsAsUsers [("memory", Store.Place.alone.adapter)] []) start = (.ok registry, finish) ∧
      registry.model? "account" = some registered ∧ registered.Declares "email" ∧
      (∀ operation ∈ operations, operation.2.Writes) ∧
      (registry.after finish operations).environment.rows "default" "users" = .ok rows ∧
      ¬Record.DistinctIn "email" rows := by
  let start : Run Store :=
    { environment := { keys := { draw := fun count => String.ofList (List.replicate count 'k') } } }
  let built := result (build accountsAsUsers [("memory", Store.Place.alone.adapter)] []) start
  have draws : Function.Injective start.environment.keys.draw := by
    intro first second same
    have lengths := congrArg (fun text => text.toList.length) same
    simpa [start] using lengths
  have respected : Store.Place.alone.Respected [("memory", Store.Place.alone.adapter)] [] :=
    ⟨fun entry member => .inl (by rw [List.mem_singleton.mp member]), nofun⟩
  have accounts {registry : Registry Store} (isBuilt : built.1 = .ok registry) :
      ∃ registered, registry.model? "account" = some registered ∧
        registered.adapter = Store.Place.alone.adapter ∧ registered.Declares "email" ∧
        registered.datastore = "default" ∧ registered.model.table = "users" := by
    obtain rfl := Except.ok.inj isBuilt
    exact ⟨_, rfl, rfl, ⟨"email", rfl, .inr ⟨_, rfl, rfl⟩⟩, rfl, rfl⟩
  obtain ⟨registered, found, inStore, declares, datastore, name⟩ := accounts rfl
  have bare : start.environment.Bare registered.datastore registered.model.table :=
    fun table stored => by cases stored
  obtain ⟨last, isLast, -, exactly⟩ :=
    declared_enforced_iff (show built = _ from rfl) respected found inStore bare draws
  have free : "email" ∉ (TableDefinition.ofModel last (Columns.ofModel last)).distinctColumns := by
    rw [datastore, name] at isLast
    obtain rfl : _ = last := Option.some.inj isLast
    decide
  have broken := mt (exactly "email" declares).mp free
  push Not at broken
  obtain ⟨operations, writes, rows, isRows, clash⟩ := broken
  rw [datastore, name] at isRows
  exact ⟨_, start, _, registered, operations, rows, rfl, found, declares, writes, isRows, clash⟩

end Registry

end RecordMapper
