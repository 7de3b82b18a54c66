import RecordMapper.Proofs.Execution.Course
import RecordMapper.Proofs.Query.Effects

/-! # Mutations in a store

A mutation that calls no hook is one query to the store. It is over before that query, or the store
refuses it, or it is written. In the first two cases no table changes. In the last one only the table of the
model changes, and it holds the rows of what the mutation does to its records, exactly if it fills in the
keys that the model asks for.
-/

namespace RecordMapper

open Attempt Results

variable {σ : Type}

/-- A footprint is recognized. -/
theorem Footprint.ofJson?_toJson (footprint : Footprint) : ofJson? footprint.toJson = some footprint := by
  obtain ⟨identity, keys⟩ := footprint
  have texts : (keys.map Json.text).mapM Json.text? = some keys := by
    induction keys with
    | nil => rfl
    | cons key rest ih =>
      rw [List.map_cons, List.mapM_cons, ih]
      rfl
  simp [ofJson?, toJson, Json.field?, Dictionary.get?, Json.text?, texts]

theorem AdapterError.reportedCode_notUnique (columns : List String) :
    (AdapterError.notUnique columns).reportedCode = "E_UNIQUE" := by
  unfold notUnique reportedCode
  dsimp only
  rw [Option.bind_some, Footprint.ofJson?_toJson]
  rfl

namespace RegisteredModel

variable {registered : RegisteredModel σ} {place : Store.Place σ}

/-- A record that does not fit its model fails with how it does not. -/
theorem verify_eq_error {record : Record} {error : QueryError} :
    registered.verify record = .error error ↔
      ∃ drift, registered.model.drift? record = some drift ∧ .drift registered.identity drift = error := by
  unfold verify
  cases registered.model.drift? record <;> simp

end RegisteredModel

namespace Registry

variable {registry : Registry σ} {registered : RegisteredModel σ} {place : Store.Place σ}

/-- An operation that calls no hook is the query that it puts to the adapter. -/
theorem perform_of_quiet {query : LogicalQuery σ} (quiet : registered.Quiet query.options) (run : Run σ) :
    result (registry.perform registered query) run =
      result (registry.fetch registered query.method query) run := by
  rw [result_perform (registered.before_of_quiet quiet run.environment), Run.advance_self]
  rcases result (registry.fetch registered query.method query) run with ⟨error | outcome, between⟩
  · rfl
  · cases outcome with
    | nothing | count | number => rfl
    | records records =>
      rw [conclude, RegisteredModel.result_callAfter]
      cases HookName.after? query.method with
      | none => rfl
      | some name =>
        dsimp only
        rw [registered.hookRecords_of_quiet quiet, Stage.idle, Run.advance_self]
        rfl

/-- Rows that a mutation affected are read as they are, if they are to be fetched. -/
theorem reading_fetched {physical : PhysicalQuery} (mutation : physical.method.isMutation = true)
    {rows : List Record} (single : physical.method = .create → ∃ row, rows = [row]) :
    registry.reading registered physical (Store.fetched physical rows) =
      if physical.options.fetch then
        (registry.materialize registered physical.joins physical.options rows).map .records
      else .ok .nothing := by
  unfold reading Store.fetched
  cases fetch : physical.options.fetch with
  | false =>
    cases method : physical.method with
    | create | createEach | update | destroy => simp [Outcome.ofReply, fetch]
    | find | count | sum | avg | stream =>
      rw [method] at mutation
      cases mutation
  | true =>
    have reply : Outcome.ofReply physical.method physical.options (some (.list (rows.map .record))) =
        .ok (.records rows) := by
      cases method : physical.method with
      | create =>
        obtain ⟨row, rfl⟩ := single method
        exact (Outcome.ofReply_create fetch).mpr ⟨row, rfl, rfl⟩
      | createEach | update | destroy =>
        simp [Outcome.ofReply, fetch, Outcome.rows_eq_ok.mpr rfl, Except.map]
      | find | count | sum | avg | stream =>
        rw [method] at mutation
        cases mutation
    simp only [if_true, reply]

/-! ## From rows to records -/

/-- The row of a record is read as the record, and verified as the record is. -/
theorem materializeRow_rowOf (faithful : registered.columns.Faithful) {record : Record}
    (storable : registered.columns.Storable record) (verified : Bool) :
    registry.materializeRow registered [] verified (registered.columns.rowOf record) =
      if verified then (registered.verify record).map fun _ => record else .ok record := by
  have raised : registered.raise (registered.columns.rowOf record) = .ok record := by
    rw [RegisteredModel.raise, faithful.raise_rowOf storable]
    rfl
  rw [materializeRow_nil, raised]
  rfl

/-- The rows of records are read as the records, unless one of them is to be verified and does not fit. -/
theorem materialize_rowOf (registry : Registry σ) (faithful : registered.columns.Faithful)
    {records : List Record} {options : Meta}
    (each : ∀ record ∈ records, registered.columns.Storable record) :
    registry.materialize registered [] options (records.map registered.columns.rowOf) = .ok records ∨
      options.skipVerification = false ∧ ∃ record ∈ records, ∃ drift,
        registered.model.drift? record = some drift ∧
        registry.materialize registered [] options (records.map registered.columns.rowOf) =
          .error (.drift registered.identity drift) := by
  cases answer : registry.materialize registered [] options (records.map registered.columns.rowOf) with
  | ok found => exact .inl (by rw [materialize_rows faithful each answer])
  | error error =>
    obtain ⟨row, member, failed⟩ := exists_of_mapM_eq_error answer
    obtain ⟨record, isRecord, rfl⟩ := List.mem_map.mp member
    rw [materializeRow_rowOf faithful (each record isRecord)] at failed
    split at failed
    · next verifies =>
      obtain ⟨drift, drifts, rfl⟩ := RegisteredModel.verify_eq_error.mp (map_eq_error.mp failed)
      exact .inr ⟨by simpa using verifies, record, isRecord, drift, drifts, rfl⟩
    · cases failed

/-- Rows without joins cannot be read because of their columns or because they do not fit. -/
theorem materialize_eq_error {rows : List Record} {options : Meta} {error : QueryError}
    (failed : registry.materialize registered [] options rows = .error error) :
    (∃ cause, error = .transform registered.identity cause) ∨
      ∃ drift, error = .drift registered.identity drift := by
  obtain ⟨row, -, failed⟩ := exists_of_mapM_eq_error failed
  rw [materializeRow_nil] at failed
  rcases bind_eq_error.mp failed with unraised | ⟨record, -, failed⟩
  · obtain ⟨cause, -, rfl⟩ := mapError_eq_error.mp unraised
    exact .inl ⟨cause, rfl⟩
  · split at failed
    · obtain ⟨drift, -, rfl⟩ := RegisteredModel.verify_eq_error.mp (map_eq_error.mp failed)
      exact .inr ⟨drift, rfl⟩
    · cases failed

/-! ## The mutation -/

/-- What becomes of a mutation that is put to a store: it is refused, and no table changes, or its outcome
becomes the table, and the rows that it affected are read. -/
theorem fetch_mutation (inStore : registered.adapter = place.adapter) {query : LogicalQuery σ}
    {physical : PhysicalQuery} (lowered : query.lower registered registry = .ok physical)
    (mutation : physical.method.isMutation = true) {run : Run σ} {table : Table}
    (stored : (place.part run.environment).table registered.datastore physical.table = .ok table)
    (origin : Method) :
    (∃ error after, result (registry.fetch registered origin query) run = (.error error, after) ∧
      error.code = "E_UNIQUE" ∧
      (place.part after.environment).datastores = (place.part run.environment).datastores) ∨
    ∃ written after, result (registry.fetch registered origin query) run =
        (registry.reading registered physical
          (Store.fetched physical (table.affected (place.part run.environment).keys physical)), after) ∧
      written.definition = table.definition ∧
      written.rows = table.outcome (place.part run.environment).keys physical ∧
      ∀ datastore name, (place.part after.environment).table datastore name =
        if registered.datastore = datastore ∧ physical.table = name then .ok written
        else (place.part run.environment).table datastore name := by
  have notStream : physical.method ≠ .stream := by
    intro stream
    rw [stream] at mutation
    cases mutation
  have answer := RegisteredModel.answer?_inStore inStore notStream run.environment
  rcases Store.answer?_cases stored mutation with
    ⟨column, keys, refused, -⟩ | ⟨keys, written, done, definition, rows, -⟩
  · rw [refused] at answer
    obtain ⟨charged, warnings, fetched, code⟩ := fetch_of_error lowered answer origin
    refine .inl ⟨charged, _, fetched, code.trans (AdapterError.reportedCode_notUnique _), ?_⟩
    rw [Run.environment_advance, place.part_put]
  · rw [done] at answer
    have fetched := fetch_of_ok lowered (LogicalQuery.lower_eq_ok.mp lowered).options_eq answer origin
    refine .inr ⟨written, _, fetched, definition, rows, fun datastore name => ?_⟩
    rw [Run.environment_advance, place.part_put, Store.table_put, Store.table_withKeys]

end Registry

/-- A mutation was carried out: a table holds the rows of what it does to the records, and it ends well, with
the records that it affects if they are to be fetched. Only if one of these does not fit its model, it ends
with how it does not. -/
def RegisteredModel.CarriedOut (registered : RegisteredModel σ) (now : Instant) (query : Description σ)
    (records rows : List Record) (outcome : Except QueryError Outcome) : Prop :=
  ∃ contents affected, Effect registered.model now query records contents affected ∧
    contents.mapM registered.columns.lower = .ok rows ∧
    (query.options.fetch = false → outcome = .ok .nothing) ∧
    (query.options.fetch = true → outcome = .ok (.records affected) ∨
      query.options.skipVerification = false ∧ ∃ record ∈ affected, ∃ drift,
        registered.model.drift? record = some drift ∧ outcome = .error (.drift registered.identity drift))

namespace Registry

variable {registry : Registry σ} {registered : RegisteredModel σ} {place : Store.Place σ} {now : Instant}
  {query : Description σ} {compiled : LogicalQuery σ} {physical : PhysicalQuery}

/-- A mutation that asks for nothing has no records to add, or a clause that no record satisfies. -/
theorem means_of_noop (found : registry.model? query.model = some registered)
    (mutation : query.method.isMutation = true) {details : String}
    (noop : query.compile registry now = .error (.noop details)) :
    (query.method.takesRecords = true → query.records = some (.list [])) ∧
      (query.method.takesCriteria = true → ∀ record, query.means registered.model record = false) := by
  obtain ⟨_, same, -, inCriteria | inRecords⟩ := Description.compile_eq_noop noop
  · obtain rfl := Option.some.inj (found.symm.trans same)
    unfold Description.compileCriteria at inCriteria
    split at inCriteria
    · next takes =>
      have unpaged : query.method.allowsPaging = false ∧ query.method.takesRecords = false := by
        revert mutation takes
        cases query.method <;> decide
      refine ⟨fun takesRecords => ?_, fun _ record => Criteria.satisfied_of_noop unpaged.1 inCriteria record⟩
      rw [unpaged.2] at takesRecords
      cases takesRecords
    · cases inCriteria
  · obtain ⟨method, given⟩ := Description.records_of_noop inRecords
    refine ⟨fun _ => given, fun takes => ?_⟩
    rw [method] at takes
    cases takes

section Written

variable {table : Table} {records : List Record} {supply : KeySupply}
  (made : query.CompiledTo registry now registered.model compiled)
  (lowered : compiled.LoweredTo registered registry physical) (mutation : query.method.isMutation = true)

include made lowered mutation

/-- The rows that a mutation affected are read without joins. -/
theorem reading_affected :
    registry.reading registered physical (Store.fetched physical (table.affected supply physical)) =
      if query.options.fetch then (registry.materialize registered [] query.options
        (table.affected supply physical)).map .records
      else .ok .nothing := by
  have method_eq : physical.method = query.method := lowered.method_eq.trans made.method_eq
  have options_eq : physical.options = query.options := lowered.options_eq.trans made.options_eq
  rw [reading_fetched (method_eq ▸ mutation), options_eq, joins_eq_nil made lowered mutation]
  intro create
  obtain ⟨record, one⟩ := made.records_of_create (method_eq ▸ create)
  rw [Table.affected, create, lowered.records_eq.2, one]
  exact ⟨_, rfl⟩

/-- A mutation that is written fails neither through its caller nor through uniqueness. -/
theorem code_of_reading {error : QueryError}
    (failed : registry.reading registered physical (Store.fetched physical (table.affected supply physical)) =
      .error error) : error.isUsage = false ∧ error.code ≠ "E_UNIQUE" := by
  rw [reading_affected made lowered mutation] at failed
  split at failed
  · rcases materialize_eq_error (map_eq_error.mp failed) with ⟨cause, rfl⟩ | ⟨drift, rfl⟩
    · exact ⟨rfl, by simp [QueryError.code]⟩
    · exact ⟨rfl, by simp [QueryError.code]⟩
  · cases failed

/-- A mutation that is written is carried out exactly if the table fills in the keys that the model asks
for. -/
theorem carriedOut_iff_fillsKeys (faithful : registered.columns.Faithful) {key : String}
    (found : registered.columns.column registered.model.primaryKey = .ok key)
    (added : ∀ record ∈ compiled.records, registered.columns.Storable record)
    (each : ∀ record ∈ records, registered.columns.Storable record)
    (rows : table.rows = records.map registered.columns.rowOf) :
    registered.CarriedOut now query records (table.outcome supply physical)
        (registry.reading registered physical (Store.fetched physical (table.affected supply physical))) ↔
      registered.FillsKeys table.definition compiled.records := by
  constructor
  · rintro ⟨contents, affected, effect, outcome, -, -⟩
    exact fillsKeys_of_effect faithful made lowered added rows found effect outcome
  · intro fills
    obtain ⟨contents, affected, effect, covers, isAffected, outcome, same⟩ :=
      exists_effect faithful made lowered added each rows mutation fills supply
    refine ⟨contents, affected, effect, outcome ▸ Columns.lower_rows covers, ?_, ?_⟩
    · intro unfetched
      rw [reading_affected made lowered mutation, unfetched]
      rfl
    · intro fetch
      rw [reading_affected made lowered mutation, if_pos fetch, same]
      rcases registry.materialize_rowOf faithful isAffected with done | ⟨verifies, failed⟩
      · rw [done]
        exact .inl rfl
      · obtain ⟨record, member, drift, drifts, failed⟩ := failed
        rw [failed]
        exact .inr ⟨verifies, record, member, drift, drifts, rfl⟩

end Written

section Executed

variable {table : Table} {run : Run σ} (found : registry.model? query.model = some registered)
  (inStore : registered.adapter = place.adapter) (quiet : registered.Quiet query.options)
  (mutation : query.method.isMutation = true)
  (stored : (place.part run.environment).table registered.datastore registered.model.table = .ok table)

include found inStore quiet mutation stored

/-- A mutation that calls no hook leaves its table as it is, or its outcome becomes the table. -/
theorem execute_mutation_cases (now : Instant) :
    ∃ left, (place.part (result (registry.execute now query) run).2.environment).table registered.datastore
        registered.model.table = .ok left ∧
      (left.rows = table.rows ∨ ∃ compiled physical,
        query.CompiledTo registry now registered.model compiled ∧ compiled.LoweredTo registered registry physical ∧
        left.rows = table.outcome (place.part run.environment).keys physical) := by
  have notStream : query.method ≠ .stream := by
    intro stream
    rw [stream] at mutation
    cases mutation
  cases compilation : query.compile registry now with
  | error reason =>
    obtain ⟨outcome, untouched, -, -⟩ := execute_of_compile_error compilation run
    rw [untouched]
    exact ⟨table, stored, .inl rfl⟩
  | ok compiled =>
    obtain ⟨_, same, made⟩ := Description.compile_eq_ok.mp compilation
    obtain rfl := Option.some.inj (found.symm.trans same)
    rw [execute_of_compile found compilation, if_neg notStream, perform_of_quiet (made.options_eq ▸ quiet)]
    cases lowering : compiled.lower registered registry with
    | error cause =>
      rw [fetch_of_lower_error lowering]
      exact ⟨table, stored, .inl rfl⟩
    | ok physical =>
      have lowered := LogicalQuery.lower_eq_ok.mp lowering
      have isMutation : physical.method.isMutation = true := by
        rw [lowered.method_eq, made.method_eq]
        exact mutation
      rcases fetch_mutation inStore lowering isMutation (lowered.table_eq ▸ stored) compiled.method with
        ⟨error, after, fetched, -, unchanged⟩ | ⟨written, after, fetched, -, rows, tables⟩
      · rw [fetched]
        refine ⟨table, ?_, .inl rfl⟩
        rw [← stored, Store.table, Store.table, Store.tablesOf, Store.tablesOf, unchanged]
      · rw [fetched]
        refine ⟨written, ?_, .inr ⟨compiled, physical, made, lowered, rows⟩⟩
        rw [tables, lowered.table_eq, if_pos ⟨rfl, rfl⟩]

/-- A mutation that calls no hook is written if the table admits its outcome, and ends with what is read of
the rows that it affected. -/
theorem execute_of_admitted (compilation : query.compile registry now = .ok compiled)
    (lowering : compiled.lower registered registry = .ok physical)
    (admits : table.definition.Admits (table.outcome (place.part run.environment).keys physical)) :
    ∃ written after, result (registry.execute now query) run =
        (registry.reading registered physical
          (Store.fetched physical (table.affected (place.part run.environment).keys physical)), after) ∧
      (place.part after.environment).table registered.datastore registered.model.table = .ok written ∧
      written.definition = table.definition ∧
      written.rows = table.outcome (place.part run.environment).keys physical := by
  have notStream : query.method ≠ .stream := by
    intro stream
    rw [stream] at mutation
    cases mutation
  obtain ⟨_, same, made⟩ := Description.compile_eq_ok.mp compilation
  obtain rfl := Option.some.inj (found.symm.trans same)
  have lowered := LogicalQuery.lower_eq_ok.mp lowering
  have method_eq : physical.method = query.method := lowered.method_eq.trans made.method_eq
  rw [execute_of_compile found compilation, if_neg notStream, perform_of_quiet (made.options_eq ▸ quiet)]
  have answer := RegisteredModel.answer?_inStore inStore (method_eq ▸ notStream) run.environment
  have storedHere : (place.part run.environment).table registered.datastore physical.table = .ok table := by
    rw [lowered.table_eq]
    exact stored
  rcases Store.answer?_cases storedHere (method_eq ▸ mutation) with
    ⟨column, keys, -, member, agree⟩ | ⟨keys, written, done, definition, rows, -⟩
  · exact absurd admits (TableDefinition.not_admits member agree)
  · rw [done] at answer
    refine ⟨written, _, fetch_of_ok lowering lowered.options_eq answer compiled.method, ?_, definition, rows⟩
    rw [Run.environment_advance, place.part_put, lowered.table_eq, Store.table_put_self]

end Executed

/-- What a mutation does that calls no hook, of a model of a registry that was built, whose table is in a
store and holds the rows of some records. It leaves every other table alone. If it asks for nothing it ends well
and there was nothing to do; if it cannot be lowered it fails with that; and then as after a usage error or a
violated uniqueness no table has changed. Otherwise the store refuses it, or it is written, and what is
written and answered is what it does to the records, exactly if the table fills in the keys that the model
asks for. -/
theorem mutation_carriedOut_iff_fillsKeys {configuration : Configuration} {adapters : Dictionary (Adapter σ)}
    {hooks : Dictionary (Hooks σ)} {start finish : Run σ}
    (built : result (build configuration adapters hooks) start = (.ok registry, finish))
    (found : registry.model? query.model = some registered) (inStore : registered.adapter = place.adapter)
    (quiet : registered.Quiet query.options) (mutation : query.method.isMutation = true)
    (given : ∀ raw, query.records = some raw → raw.Sorted) {run : Run σ} {table : Table}
    {records : List Record}
    (stored : (place.part run.environment).table registered.datastore registered.model.table = .ok table)
    (rowsOf : registered.columns.RowsOf records table.rows) (now : Instant) :
    ∃ outcome after, result (registry.execute now query) run = (outcome, after) ∧
      (∀ datastore name, ¬(registered.datastore = datastore ∧ registered.model.table = name) →
        (place.part after.environment).table datastore name =
          (place.part run.environment).table datastore name) ∧
      (∀ details, query.compile registry now = .error (.noop details) →
        outcome = .ok (.noop query.method query.options) ∧ after = run ∧
        (query.method.takesRecords = true → query.records = some (.list [])) ∧
        (query.method.takesCriteria = true → ∀ record, query.means registered.model record = false)) ∧
      (∀ error, outcome = .error error → error.isUsage = true ∨ error.code = "E_UNIQUE" →
        (place.part after.environment).datastores = (place.part run.environment).datastores) ∧
      (∀ compiled cause, query.compile registry now = .ok compiled →
        compiled.lower registered registry = .error cause →
        outcome = .error (.transform registered.identity cause) ∧ after = run) ∧
      ∀ compiled physical, query.compile registry now = .ok compiled →
        compiled.lower registered registry = .ok physical →
        (∃ error, outcome = .error error ∧ error.code = "E_UNIQUE") ∨
        ∃ written,
          (place.part after.environment).table registered.datastore registered.model.table = .ok written ∧
          written.definition = table.definition ∧
          (registered.CarriedOut now query records written.rows outcome ↔
            registered.FillsKeys table.definition compiled.records) := by
  have notStream : query.method ≠ .stream := by
    intro stream
    rw [stream] at mutation
    cases mutation
  cases compilation : query.compile registry now with
  | error reason =>
    obtain ⟨outcome, untouched, noop, -⟩ := execute_of_compile_error compilation run
    refine ⟨outcome, run, untouched, fun _ _ _ => rfl, fun details same => ?_, fun _ _ _ => rfl, ?_, ?_⟩
    · obtain rfl := Except.error.inj same
      exact ⟨noop rfl, rfl, means_of_noop found mutation compilation⟩
    · intro compiled cause same
      cases same
    · intro compiled physical same
      cases same
  | ok compiled =>
    obtain ⟨_, same, made⟩ := Description.compile_eq_ok.mp compilation
    obtain rfl := Option.some.inj (found.symm.trans same)
    have isMutation : compiled.method.isMutation = true := made.method_eq ▸ mutation
    rw [execute_of_compile found compilation, if_neg notStream, perform_of_quiet (made.options_eq ▸ quiet)]
    cases lowering : compiled.lower registered registry with
    | error cause =>
      rw [fetch_of_lower_error lowering]
      refine ⟨_, run, rfl, fun _ _ _ => rfl, fun _ same => (by cases same), fun _ _ _ => rfl, ?_, ?_⟩
      · rintro _ _ ⟨⟩ failed
        rw [Except.error.inj (lowering.symm.trans failed)]
        exact ⟨rfl, rfl⟩
      · rintro _ _ ⟨⟩ done
        rw [lowering] at done
        cases done
    | ok physical =>
      have lowered := LogicalQuery.lower_eq_ok.mp lowering
      have fetching := fetch_mutation inStore lowering (lowered.method_eq ▸ isMutation)
        (lowered.table_eq ▸ stored) compiled.method
      rcases fetching with ⟨error, after, fetched, code, unchanged⟩ |
        ⟨written, after, fetched, definition, left, tables⟩
      · refine ⟨_, after, fetched, ?_, fun _ same => (by cases same), fun _ _ _ => unchanged, ?_, ?_⟩
        · intro datastore name _
          rw [Store.table, Store.tablesOf, unchanged]
          rfl
        · rintro _ _ ⟨⟩ failed
          rw [lowering] at failed
          cases failed
        · exact fun _ _ _ _ => .inl ⟨error, rfl, code⟩
      · have holds := built_of_build built
        have valid := holds.valid_of_model? found
        have faithful : registered.columns.Faithful :=
          holds.columns_eq found ▸ Columns.faithful_ofModel valid
        obtain ⟨key, isKey⟩ := (holds.exists_column_iff found).mpr valid.primaryKey_mem
        refine ⟨_, after, fetched, ?_, fun _ same => (by cases same), ?_, ?_, ?_⟩
        · intro datastore name elsewhere
          rw [tables, lowered.table_eq, if_neg elsewhere]
        · intro error failed kind
          obtain ⟨notUsage, notUnique⟩ := code_of_reading made lowered mutation failed
          rcases kind with usage | unique
          · rw [notUsage] at usage
            cases usage
          · exact absurd unique notUnique
        · rintro _ _ ⟨⟩ failed
          rw [lowering] at failed
          cases failed
        · rintro _ _ ⟨⟩ done
          obtain rfl := Except.ok.inj (lowering.symm.trans done)
          refine .inr ⟨written, ?_, definition, ?_⟩
          · rw [tables, lowered.table_eq, if_pos ⟨rfl, rfl⟩]
          · rw [left]
            exact carriedOut_iff_fillsKeys made lowered mutation faithful isKey
              (lowered.storable (made.records_sorted given)) rowsOf.storable rowsOf.rows_eq

/-- Two models of one table, each with a key of its own. The table gets the key of the second one. -/
def sharedTable : Configuration where
  datastores := [("default", { adapter := "memory" })]
  models := [
    { identity := "first", datastore := "default", tableName := some "shared"
      attributes := [("id", .ofType .number)] },
    { identity := "second", datastore := "default", tableName := some "shared", primaryKey := "key"
      attributes := [("key", .ofType .number)] }]

/-- A create of a record of the first model, without a key. -/
def createFirst : Description Store where
  method := .create
  model := "first"
  records := some (.record [])

/-- A table that two models share gives a new record of the first one the key of the second one. -/
theorem createFirst_not_carriedOut :
    ∃ (registry : Registry Store) (start finish after : Run Store) (registered : RegisteredModel Store)
      (outcome : Except QueryError Outcome) (written : Table),
      result (build sharedTable [("memory", Store.Place.alone.adapter)] []) start = (.ok registry, finish) ∧
      registry.model? createFirst.model = some registered ∧
      result (registry.execute ⟨0⟩ createFirst) finish = (outcome, after) ∧
      after.environment.table "default" "shared" = .ok written ∧ written.rows = [[("key", .ofNat 1)]] ∧
      ¬registered.CarriedOut ⟨0⟩ createFirst [] written.rows outcome := by
  let start : Run Store := { environment := { keys := { draw := toString } } }
  let built := result (build sharedTable [("memory", Store.Place.alone.adapter)] []) start
  have creates {registry : Registry Store} (isBuilt : built.1 = .ok registry) :
      ∃ registered compiled physical, registry.model? createFirst.model = some registered ∧
        registered.adapter = Store.Place.alone.adapter ∧ registered.hooks = {} ∧
        createFirst.compile registry ⟨0⟩ = .ok compiled ∧
        compiled.lower registered registry = .ok physical ∧ compiled.records = [[]] ∧
        registered.datastore = "default" ∧ registered.model.table = "shared" ∧
        registered.model.primaryKey = "id" ∧ registered.columns.column "id" = .ok "id" ∧
        (result (registry.execute ⟨0⟩ createFirst) built.2).1.isOk = true ∧
        ((result (registry.execute ⟨0⟩ createFirst) built.2).2.environment.table "default" "shared").map
          Table.rows = .ok [[("key", .ofNat 1)]] := by
    obtain rfl := Except.ok.inj isBuilt
    exact ⟨_, _, _, rfl, rfl, rfl, rfl, rfl, rfl, rfl, rfl, rfl, rfl, by cbv, by cbv⟩
  obtain ⟨registered, compiled, physical, found, inStore, noHooks, isCompiled, lowered, added, datastore,
    name, key, column, ends, rows⟩ := creates rfl
  obtain ⟨table, stored, none, tableKey⟩ : ∃ table, built.2.environment.table "default" "shared" = .ok table ∧
      table.rows = [] ∧ table.definition.primaryKey = "key" := ⟨_, rfl, rfl, rfl⟩
  rw [← datastore, ← name] at stored
  have rowsOf : registered.columns.RowsOf [] table.rows := by
    rw [none]
    exact ⟨List.forall_mem_nil _, rfl⟩
  obtain ⟨outcome, after, executed, -, -, -, -, written⟩ :=
    mutation_carriedOut_iff_fillsKeys (show built = _ from rfl) found inStore (.inr noHooks) rfl
      (fun raw same => by cases same; exact ⟨Dictionary.sorted_nil, trivial⟩)
      (show (Store.Place.alone.part built.2.environment).table _ _ = .ok table from stored) rowsOf ⟨0⟩
  rw [executed] at ends rows
  rcases written compiled physical isCompiled lowered with ⟨error, rfl, -⟩ | ⟨left, isLeft, -, carriedOut⟩
  · cases ends
  · have isShared : after.environment.table "default" "shared" = .ok left := datastore ▸ name ▸ isLeft
    rw [isShared] at rows
    refine ⟨_, start, _, after, registered, outcome, left, rfl, found, executed, isShared,
      Except.ok.inj rows, ?_⟩
    rw [carriedOut, added]
    rintro (sameColumn | has)
    · rw [key, column, tableKey] at sameColumn
      exact absurd (Except.ok.inj sameColumn) (by decide)
    · obtain ⟨⟨value, held⟩, -⟩ := has [] (List.mem_singleton_self _)
      cases held

end Registry

end RecordMapper
