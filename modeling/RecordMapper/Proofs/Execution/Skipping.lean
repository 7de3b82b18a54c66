import RecordMapper.Proofs.Execution.Finding
import RecordMapper.Proofs.Query.AsWritten
import RecordMapper.Proofs.Query.Joins
import RecordMapper.Proofs.Store.Tables

/-! # Queries that are not put to a store

A query that asks for nothing is over before its adapter is asked. Put to a store as it is written, it
would have come to the same: no table changes, and the answer is the outcome of asking for nothing.
-/

namespace RecordMapper

open Attempt Results

variable {σ : Type}

/-! ## Queries that find and write nothing -/

/-- A physical query that has nothing to find, to write or to add, whatever its table holds. -/
def PhysicalQuery.AsksNothing (query : PhysicalQuery) : Prop :=
  match query.method with
  | .createEach => query.records = []
  | .update | .destroy => ∀ row, query.criteria.clause.accepts row = false
  | .find | .count => ∀ rows, query.criteria.select rows = []
  | .sum | .avg => (∀ rows, query.criteria.select rows = []) ∧ ∃ column, query.numericColumn = some column
  | .create | .stream => False

namespace Criteria

theorem select_of_never {criteria : Criteria} (never : ∀ row, criteria.clause.accepts row = false)
    (rows : List Record) : criteria.select rows = [] := by
  have none : (rows.filter fun row => criteria.clause.accepts row) = [] := by simp [never]
  have arranged : SortTerm.arrange criteria.sort [] = [] := List.mergeSort_nil
  rw [select, none, arranged, List.drop_nil]
  cases criteria.limit <;> simp [takeUpTo]

theorem select_of_limit_zero {criteria : Criteria} (zero : criteria.limit = some 0) (rows : List Record) :
    criteria.select rows = [] := by
  rw [select, zero, takeUpTo, List.take_zero]

end Criteria

namespace Table

variable {table : Table} {clause : Clause}

theorem partition_of_never (never : ∀ row, clause.accepts row = false) :
    table.rows.partition (fun row => clause.accepts row) = ([], table.rows) := by
  rw [List.partition_eq_filter_filter, List.filter_eq_nil_iff.mpr (by simp [never]),
    List.filter_eq_self.mpr (by simp [never])]

/-- Writing over the rows of a clause that no row matches writes nothing. -/
theorem update_of_never (never : ∀ row, clause.accepts row = false) (values : Record) :
    table.update clause values = .ok ([], table) := by
  rw [update, partition_of_never never]
  simp [never, updateCollision?]

/-- Taking out the rows of a clause that no row matches takes out nothing. -/
theorem destroy_of_never (never : ∀ row, clause.accepts row = false) :
    table.destroy clause = ([], table) := by
  rw [destroy, partition_of_never never]

end Table

namespace Store

variable {store : Store} {datastore : String} {query : PhysicalQuery}

/-- Every model that a registry has in a datastore has its table there. -/
def Holds (store : Store) (registry : Registry σ) (datastore : String) : Prop :=
  ∀ identity registered, registry.model? identity = some registered → registered.datastore = datastore →
    ∃ table, store.table datastore registered.model.table = .ok table

/-- Whatever it is asked, a store keeps the tables of a registry. -/
theorem Holds.after {registry : Registry σ} (holds : store.Holds registry datastore)
    (queries : List (String × PhysicalQuery)) : (store.after queries).Holds registry datastore := by
  refine after_keeps (fun store => store.Holds registry datastore)
    (fun _ _ _ _ _ answered holds => ?_) holds queries
  intro identity registered found together
  exact exists_table_answer? answered (holds identity registered found together)

theorem put_self_table {table : Table} (found : store.table datastore query.table = .ok table)
    (other name : String) : (store.put datastore query.table table).table other name = store.table other name := by
  rw [table_put]
  split
  · next same =>
    obtain ⟨rfl, rfl⟩ := same
    exact found.symm
  · rfl

/-- A store answers a query that asks for nothing with what an empty outcome is read from, and keeps all its
tables. -/
theorem answer?_of_asksNothing {table : Table} (found : store.table datastore query.table = .ok table)
    (children : ∃ joined, store.children datastore query.joins = .ok joined) (nothing : query.AsksNothing) :
    ∃ reply next, store.answer? datastore query = some (.ok reply, next) ∧
      Outcome.ofReply query.method query.options reply = .ok (.noop query.method query.options) ∧
      ∀ other name, next.table other name = store.table other name := by
  have stored : store.rows datastore query.table = .ok table.rows := by rw [rows, found]; rfl
  have written {method : Method} (writes : method = .createEach ∨ method = .update ∨ method = .destroy) :
      Outcome.ofReply method query.options (fetched query []) = .ok (.noop method query.options) := by
    rcases writes with rfl | rfl | rfl
    all_goals
      unfold Outcome.ofReply fetched Outcome.noop
      cases query.options.fetch <;> rfl
  unfold PhysicalQuery.AsksNothing at nothing
  unfold answer?
  cases method : query.method <;> simp only [method] at nothing ⊢
  case createEach =>
    refine ⟨fetched query [], _, ?_, written (.inl rfl), put_self_table found⟩
    simp only [create, found, nothing]
    rfl
  case update =>
    refine ⟨fetched query [], _, ?_, written (.inr (.inl rfl)), put_self_table found⟩
    simp only [update, found, Table.update_of_never nothing]
    rfl
  case destroy =>
    refine ⟨fetched query [], _, ?_, written (.inr (.inr rfl)), put_self_table found⟩
    simp only [destroy, found, Table.destroy_of_never nothing]
    rfl
  case find =>
    obtain ⟨joined, isJoined⟩ := children
    refine ⟨some (.list []), store, ?_, rfl, fun _ _ => rfl⟩
    have none : store.find datastore query = .ok [] := by
      rw [find, stored]
      refine bind_eq_ok.mpr ⟨_, rfl, bind_eq_ok.mpr ⟨_, isJoined, ?_⟩⟩
      rw [nothing]
      rfl
    rw [none]
    rfl
  case count =>
    refine ⟨some (.ofNat 0), store, ?_, rfl, fun _ _ => rfl⟩
    have none : store.count datastore query = .ok 0 := by
      rw [count, stored]
      exact bind_eq_ok.mpr ⟨_, rfl, by rw [nothing]; rfl⟩
    rw [none]
    rfl
  case sum | avg =>
    obtain ⟨nothing, column, isColumn⟩ := nothing
    have none : store.numbers datastore query = .ok [] := by
      rw [numbers, isColumn, stored]
      exact bind_eq_ok.mpr ⟨_, rfl, by rw [nothing]; rfl⟩
    refine ⟨some (.number (.double (.zero false))), store, ?_, rfl, fun _ _ => rfl⟩
    first
    | rw [sum, none]; rfl
    | rw [average, none]; rfl

end Store

/-! ## Noops -/

namespace Description

variable {registry : Registry σ} {registered : RegisteredModel σ} {query : Description σ} {now : Instant}
  {written : LogicalQuery σ} {physical : PhysicalQuery}

/-- Criteria that ask for nothing, as they are written, select no row; and of a method that takes no limit they
match none. -/
theorem WrittenTo.selects_nothing (ofModel : registered.columns = Columns.ofModel registered.model)
    (takes : query.method.takesCriteria = true) {details : String}
    (noop : Criteria.read registered.model query.method query.criteria = .error (.noop details))
    (made : query.WrittenTo registry registered.model now written)
    (lowered : written.LoweredTo registered registry physical) :
    (∀ rows, physical.criteria.select rows = []) ∧
      (query.method.allowsPaging = false → ∀ row, physical.criteria.clause.accepts row = false) := by
  have renamed := (Criteria.rename_eq_ok.mp lowered.criteria).1
  rw [LogicalQuery.showKeys_eq, ofModel] at renamed
  change (LogicalQuery.resolveOmission _ _).clause.rename _ = _ at renamed
  rw [LogicalQuery.clause_resolveOmission] at renamed
  rcases Criteria.asWritten_of_noop noop (made.criteria takes) with never | ⟨pages, zero⟩
  · have rejects := Clause.accepts_eq_false_of_never never renamed
    exact ⟨Criteria.select_of_never rejects, fun _ => rejects⟩
  · refine ⟨Criteria.select_of_limit_zero (lowered.page_eq.2.trans zero), fun unpaged => ?_⟩
    rw [pages] at unpaged
    cases unpaged

/-- What a query that asks for nothing is lowered to, as it is written, asks for nothing. -/
theorem WrittenTo.asksNothing (found : registry.model? query.model = some registered)
    (ofModel : registered.columns = Columns.ofModel registered.model)
    (notStream : query.method ≠ .stream) {details : String}
    (noop : query.compile registry now = .error (.noop details))
    (made : query.WrittenTo registry registered.model now written)
    (lowered : written.LoweredTo registered registry physical) : physical.AsksNothing := by
  obtain ⟨_, same, -, reason⟩ := compile_eq_noop noop
  obtain rfl := Option.some.inj (found.symm.trans same)
  have method_eq : physical.method = query.method := lowered.method_eq.trans made.method_eq
  unfold PhysicalQuery.AsksNothing
  rw [method_eq]
  rcases reason with inCriteria | inRecords
  · unfold compileCriteria at inCriteria
    split at inCriteria
    case isFalse => cases inCriteria
    next takes =>
    obtain ⟨selects, rejects⟩ := made.selects_nothing ofModel takes inCriteria lowered
    cases method : query.method <;> simp only [method, Method.takesCriteria, Bool.false_eq_true] at takes ⊢
    case update | destroy => exact rejects (by rw [method]; rfl)
    case find | count => exact selects
    case sum | avg =>
      refine ⟨selects, ?_⟩
      obtain ⟨name, aggregated⟩ := numericAttribute_of_takes (by rw [method]; rfl) made.numericAttribute
      have numeric := lowered.numericColumn
      rw [aggregated] at numeric
      obtain ⟨column, -, isColumn⟩ := map_eq_ok.mp numeric
      exact ⟨column, isColumn.symm⟩
    case stream => exact notStream method
  · obtain ⟨method, given⟩ := records_of_noop inRecords
    have records := made.records
    rw [compileRecordsAsWritten, given] at records
    have rows := lowered.records
    rw [← Except.ok.inj records] at rows
    rw [method]
    exact (Except.ok.inj rows).symm

end Description

namespace Registry

variable {registry : Registry σ} {registered : RegisteredModel σ} {place : Store.Place σ}

/-- Registering a model whose adapter is a store adds its table to the store, and registering any model takes
none away, if the other adapters leave the store alone. -/
theorem register_defines {configuration : Configuration} {adapters : Dictionary (Adapter σ)}
    {hooks : Dictionary (Hooks σ)} {model : Model} {run after : Run σ}
    (apart : ∀ entry ∈ adapters, entry.2 ≠ place.adapter → ∀ datastore definition environment,
      place.part (entry.2.define datastore definition environment).2 = place.part environment)
    (done : result (register configuration adapters hooks model) run = (.ok registered, after))
    (datastore name : String) :
    (∃ table, (place.part after.environment).table datastore name = .ok table) ↔
      (registered.adapter = place.adapter ∧ registered.datastore = datastore ∧ registered.model.table = name) ∨
        ∃ table, (place.part run.environment).table datastore name = .ok table := by
  unfold register at done
  obtain ⟨adapter, _, looked, done⟩ := result_bind_eq_ok.mp done
  obtain ⟨isAdapter, rfl⟩ := result_ofExcept_eq_ok.mp looked
  obtain ⟨answer, between, defined, done⟩ := result_bind_eq_ok.mp done
  rw [result_call, Prod.mk.injEq] at defined
  obtain ⟨-, rfl⟩ := defined
  cases answer with
  | error error => cases done
  | ok answer =>
    obtain ⟨rfl, rfl⟩ := result_pure_eq_ok.mp done
    obtain ⟨known, -, isKnown⟩ := Option.bind_eq_some_iff.mp (adapterOf_eq_ok isAdapter)
    by_cases inStore : adapter = place.adapter
    · subst inStore
      have kept : place.part (place.adapter.define model.datastore
            (TableDefinition.ofModel model (Columns.ofModel model)) run.environment).2 =
          (place.part run.environment).define model.datastore
            (TableDefinition.ofModel model (Columns.ofModel model)) :=
        place.part_put ..
      rw [kept, Store.exists_table_define]
      simp [RegisteredModel.datastore, TableDefinition.ofModel]
    · rw [apart _ (Dictionary.mem_of_get? isKnown) inStore]
      simp [inStore]

/-- A build leaves every model of a datastore that is kept in a store with its table there, and whatever the
store is asked afterwards, it stays. -/
theorem holds_of_build {configuration : Configuration} {adapters : Dictionary (Adapter σ)}
    {hooks : Dictionary (Hooks σ)} {start finish : Run σ}
    (built : result (build configuration adapters hooks) start = (.ok registry, finish))
    (apart : ∀ entry ∈ adapters, entry.2 ≠ place.adapter → ∀ datastore definition environment,
      place.part (entry.2.define datastore definition environment).2 = place.part environment)
    {identity : String} (found : registry.model? identity = some registered)
    (inStore : registered.adapter = place.adapter) (queries : List (String × PhysicalQuery)) :
    ((place.part finish.environment).after queries).Holds registry registered.datastore := by
  refine Store.Holds.after (fun other another isOther together => ?_) queries
  rw [(built_of_build built).adapter_eq found isOther together.symm] at inStore
  unfold build at built
  obtain ⟨⟨⟩, between, checked, built⟩ := result_bind_eq_ok.mp built
  obtain ⟨models, after, mapped, built⟩ := result_bind_eq_ok.mp built
  obtain ⟨rfl, rfl⟩ := result_pure_eq_ok.mp built
  have each : ∀ value ∈ models, value.adapter = place.adapter → ∃ table,
      (place.part after.environment).table value.datastore value.model.table = .ok table :=
    mapM_establishes
      (fun (value : RegisteredModel σ) environment => value.adapter = place.adapter → ∃ table,
        (place.part environment).table value.datastore value.model.table = .ok table)
      (fun _ _ value _ done inStore =>
        (register_defines apart done value.datastore value.model.table).mpr (.inl ⟨inStore, rfl, rfl⟩))
      (fun value _ _ _ _ done kept inStore =>
        (register_defines apart done value.datastore value.model.table).mpr (.inr (kept inStore)))
      mapped
  obtain ⟨_, isModel, same⟩ := List.mem_map.mp (Dictionary.mem_of_get?_ofList isOther)
  obtain ⟨-, rfl⟩ := Prod.mk.inj same
  rw [← together]
  exact each _ isModel inStore

/-- That a query which asks for nothing is not put to its store cannot be observed. It ends with the outcome of
asking for nothing and leaves the run as it is. As it is written it can be lowered unless it writes a plural
association, and if it were put to the store, then no table would change, and what the store answers would
come to the same outcome. -/
theorem noop_unobservable {configuration : Configuration} {adapters : Dictionary (Adapter σ)}
    {hooks : Dictionary (Hooks σ)} {start finish : Run σ}
    (built : result (build configuration adapters hooks) start = (.ok registry, finish))
    {query : Description σ} (found : registry.model? query.model = some registered)
    (inStore : registered.adapter = place.adapter) (notStream : query.method ≠ .stream) {now : Instant}
    {details : String} (noop : query.compile registry now = .error (.noop details))
    {written : LogicalQuery σ}
    (asWritten : query.compileAsWritten registry registered.model now = .ok written) (run : Run σ)
    (holds : (place.part run.environment).Holds registry registered.datastore) :
    result (registry.execute now query) run = (.ok (.noop query.method query.options), run) ∧
      ((∃ physical, written.lower registered registry = .ok physical) ↔
        ¬∃ name ∈ query.written registered.model, registered.model.Plural name) ∧
      ∀ physical, written.lower registered registry = .ok physical → ∀ origin, ∃ after,
        result (registered.dispatch origin physical) run = (.ok (.noop query.method query.options), after) ∧
        ∀ datastore name, (place.part after.environment).table datastore name =
          (place.part run.environment).table datastore name := by
  have isBuilt := built_of_build built
  have made := Description.writtenTo_of_compileAsWritten asWritten
  obtain ⟨_, -, parts, -⟩ := Description.compile_eq_noop noop
  refine ⟨execute_of_noop found noop run, LogicalQuery.exists_lower_asWritten_iff isBuilt found parts made, ?_⟩
  intro physical isLowered origin
  have lowered := LogicalQuery.lower_eq_ok.mp isLowered
  have method_eq : physical.method = query.method := lowered.method_eq.trans made.method_eq
  have options_eq : physical.options = query.options := lowered.options_eq.trans made.options_eq
  obtain ⟨table, stored⟩ := holds _ registered found rfl
  rw [← lowered.table_eq] at stored
  have children : ∃ joined, (place.part run.environment).children registered.datastore physical.joins =
      .ok joined := by
    refine exists_mapM_eq_ok_iff.mpr fun join member => ?_
    obtain ⟨identity, child, isChild, together, childTable⟩ :=
      LogicalQuery.joins_together made.populates lowered.joins join member
    obtain ⟨table, stored⟩ := holds identity child isChild together
    rw [← childTable] at stored
    exact ⟨(join, table.rows), by rw [Store.rows, stored]; rfl⟩
  obtain ⟨reply, next, answered, read, kept⟩ := Store.answer?_of_asksNothing stored children
    (made.asksNothing found (isBuilt.columns_eq found) notStream noop lowered)
  have asked : registered.answer? physical run.environment =
      some (.ok reply, place.put run.environment next) := by
    rw [RegisteredModel.answer?_inStore inStore (method_eq ▸ notStream), answered]
    rfl
  have dispatched := RegisteredModel.dispatch_of_ok asked origin
  rw [read, method_eq, options_eq] at dispatched
  refine ⟨_, dispatched, fun datastore name => ?_⟩
  rw [Run.environment_advance, place.part_put, kept]

/-- An update, to be fetched, of the users of whom nothing can be true. -/
def renameNobody : Description Store where
  method := .update
  model := "user"
  criteria := some (.record [("or", .list [.record [("id", .record [("in", .list [])])],
    .record [("and", .list [.record [("name", .text "Ada")], .record [("name", .record [("in", .list [])])]])]])])
  values := some (.record [("name", .text "Eve")])
  options := { fetch := true }

/-- An update of nobody answers with no records, and so it does if it is put to the store as it is written,
which leaves the users as they are. -/
theorem renameNobody_unobservable :
    ∃ (registry : Registry Store) (start finish run after : Run Store) (registered : RegisteredModel Store)
      (written : LogicalQuery Store) (physical : PhysicalQuery),
      result (build .usersAndPets [("memory", Store.Place.alone.adapter)] []) start = (.ok registry, finish) ∧
      registry.model? renameNobody.model = some registered ∧
      renameNobody.compileAsWritten registry registered.model ⟨0⟩ = .ok written ∧
      written.lower registered registry = .ok physical ∧
      run.environment.rows "default" "user" = .ok userRows ∧
      result (registry.execute ⟨0⟩ renameNobody) run = (.ok (.records []), run) ∧
      result (registered.dispatch .update physical) run = (.ok (.records []), after) ∧
      after.environment.rows "default" "user" = .ok userRows := by
  let start : Run Store := { environment := { keys := { draw := toString } } }
  let built := result (build .usersAndPets [("memory", Store.Place.alone.adapter)] []) start
  let createUsers : PhysicalQuery := { method := .createEach, table := "user", records := userRows }
  let run : Run Store := { environment := built.2.environment.after [("default", createUsers)] }
  have facts {registry : Registry Store} (isBuilt : built.1 = .ok registry) :
      ∃ registered written physical details, registry.model? renameNobody.model = some registered ∧
        registered.adapter = Store.Place.alone.adapter ∧
        renameNobody.compile registry ⟨0⟩ = .error (.noop details) ∧
        renameNobody.compileAsWritten registry registered.model ⟨0⟩ = .ok written ∧
        written.lower registered registry = .ok physical := by
    obtain rfl := Except.ok.inj isBuilt
    exact ⟨_, _, _, _, rfl, rfl, rfl, rfl, rfl⟩
  obtain ⟨registered, written, physical, details, found, inStore, noop, asWritten, lowered⟩ := facts rfl
  have holds : run.environment.Holds _ registered.datastore :=
    holds_of_build (show built = _ from rfl)
      (fun entry member other => absurd (by rw [List.mem_singleton.mp member]) other) found inStore _
  obtain ⟨executed, -, dispatched⟩ := noop_unobservable (show built = _ from rfl) found inStore (by decide) noop
    asWritten run holds
  obtain ⟨after, answered, same⟩ := dispatched physical lowered .update
  have created : run.environment.rows "default" "user" = .ok userRows := by cbv
  refine ⟨_, start, _, run, after, registered, written, physical, rfl, found, asWritten, lowered, created, executed,
    answered, ?_⟩
  exact (congrArg (Except.map Table.rows) (same "default" "user")).trans created

end Registry

end RecordMapper
