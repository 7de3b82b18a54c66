import Mathlib
import RecordMapper.Proofs.Criteria.Renaming
import RecordMapper.Proofs.Execution.Fetching
import RecordMapper.Proofs.Execution.Operation
import RecordMapper.Proofs.Execution.Outcomes
import RecordMapper.Proofs.Query.Lowering
import RecordMapper.Store.Answering

/-! # Finds in a store

A find of a model whose tables are in a store changes nothing, and asks the store once. When it
succeeds, it answers with what its raw criteria find in the records of the table.
-/

namespace RecordMapper

open Attempt Results

variable {σ : Type}

/-- A place for a store in a larger environment. -/
structure Store.Place (σ : Type) where
  part : σ → Store
  put : σ → Store → σ
  part_put : ∀ environment store, part (put environment store) = store
  put_part : ∀ environment, put environment (part environment) = environment

/-- The adapter that keeps its rows in the store at a place. -/
def Store.Place.adapter (place : Store.Place σ) : Adapter σ :=
  Store.adapter.within place.part place.put

/-- A store that is the whole environment. -/
def Store.Place.alone : Store.Place Store where
  part store := store
  put _ store := store
  part_put _ _ := rfl
  put_part _ := rfl

/-- The run after a query was put to the adapter of a model that changed nothing. -/
def Run.queried (run : Run σ) (registered : RegisteredModel σ) (query : PhysicalQuery) : Run σ :=
  { run with events := run.events ++ [.queried registered.adapter.identity registered.datastore query] }

/-- The rows that answer a find are read as they are. -/
theorem Outcome.ofReply_find (options : Meta) (rows : List Record) :
    ofReply .find options (some (.list (rows.map .record))) = .ok (.records rows) := by
  rw [ofReply, rows_eq_ok.mpr rfl]
  rfl

namespace RegisteredModel

variable {registered : RegisteredModel σ} {place : Store.Place σ}

/-- The store answers the queries of a model that is kept in it. -/
theorem answer?_inStore (inStore : registered.adapter = place.adapter) {physical : PhysicalQuery}
    (notStream : physical.method ≠ .stream) (environment : σ) :
    registered.answer? physical environment =
      ((place.part environment).answer? registered.datastore physical).map
        fun answer => (answer.1, place.put environment answer.2) := by
  rw [answer?, if_neg notStream, inStore]
  rfl

/-- The store answers a find with the rows that it finds, and leaves the environment as it is. -/
theorem answer?_find (inStore : registered.adapter = place.adapter) {physical : PhysicalQuery}
    (find : physical.method = .find) (environment : σ) :
    registered.answer? physical environment =
      some (((place.part environment).find registered.datastore physical).map fun rows =>
        some (.list (rows.map .record)), environment) := by
  rw [answer?_inStore inStore (by rw [find]; decide), Store.answer?, find]
  dsimp only [Option.map_some]
  rw [place.put_part]

/-- A find is answered with the rows that the store finds, and leaves the environment as it is. -/
theorem dispatch_find_eq_ok (inStore : registered.adapter = place.adapter) {query : PhysicalQuery}
    (find : query.method = .find) {origin : Method} {run after : Run σ} {outcome : Outcome} :
    result (registered.dispatch origin query) run = (.ok outcome, after) ↔
      ∃ rows, (place.part run.environment).find registered.datastore query = .ok rows ∧
        outcome = .records rows ∧ after = run.queried registered query := by
  have answer := answer?_find inStore find run.environment
  cases found : (place.part run.environment).find registered.datastore query with
  | error error =>
    rw [found] at answer
    obtain ⟨charged, warnings, dispatched, -⟩ := dispatch_of_error answer origin
    rw [dispatched]
    exact iff_of_false (by simp) (by simp)
  | ok rows =>
    rw [found] at answer
    have reply : Outcome.ofReply query.method query.options (some (.list (rows.map .record))) =
        .ok (.records rows) := by
      rw [find, Outcome.ofReply_find]
    have quiet : registered.unrequested query (some (.list (rows.map .record))) = [] := by
      rw [unrequested, find]
      rfl
    rw [dispatch_of_ok answer origin, reply, quiet]
    constructor
    · intro done
      obtain ⟨sameOutcome, sameRun⟩ := Prod.mk.inj done
      exact ⟨rows, rfl, (Except.ok.inj sameOutcome).symm, sameRun.symm⟩
    · rintro ⟨_, same, rfl, rfl⟩
      rw [Except.ok.inj same]
      rfl

end RegisteredModel

namespace Registry

variable {registry : Registry σ} {registered : RegisteredModel σ} {place : Store.Place σ}

/-- A find fetches the records of the rows that the store finds, and leaves the environment as it
is. -/
theorem fetch_find_eq_ok (inStore : registered.adapter = place.adapter) {query : LogicalQuery σ}
    (find : query.method = .find) {origin : Method} {run after : Run σ} {outcome : Outcome} :
    result (registry.fetch registered origin query) run = (.ok outcome, after) ↔
      ∃ physical rows records, query.lower registered registry = .ok physical ∧
        (place.part run.environment).find registered.datastore physical = .ok rows ∧
        registry.materialize registered physical.joins query.options rows = .ok records ∧
        outcome = .records records ∧ after = run.queried registered physical := by
  unfold fetch
  constructor
  · intro done
    obtain ⟨physical, _, lowering, done⟩ := result_bind_eq_ok.mp done
    obtain ⟨isLowered, rfl⟩ := result_ofExcept_eq_ok.mp lowering
    have lowered := mapError_eq_ok.mp isLowered
    obtain ⟨answer, _, dispatched, done⟩ := result_bind_eq_ok.mp done
    have isFind : physical.method = .find := (LogicalQuery.lower_eq_ok.mp lowered).method_eq.trans find
    obtain ⟨rows, read, rfl, rfl⟩ := (RegisteredModel.dispatch_find_eq_ok inStore isFind).mp dispatched
    obtain ⟨records, _, materializing, done⟩ := result_bind_eq_ok.mp done
    obtain ⟨materialized, rfl⟩ := result_ofExcept_eq_ok.mp materializing
    obtain ⟨rfl, rfl⟩ := result_pure_eq_ok.mp done
    exact ⟨physical, rows, records, lowered, read, materialized, rfl, rfl⟩
  · rintro ⟨physical, rows, records, lowered, read, materialized, rfl, rfl⟩
    have isFind : physical.method = .find := (LogicalQuery.lower_eq_ok.mp lowered).method_eq.trans find
    have dispatched : result (registered.dispatch origin physical) run =
        (.ok (.records rows), run.queried registered physical) :=
      (RegisteredModel.dispatch_find_eq_ok inStore isFind).mpr ⟨rows, read, rfl, rfl⟩
    have isLowered : registry.lower registered query = .ok physical := mapError_eq_ok.mpr lowered
    refine result_bind_eq_ok.mpr ⟨physical, run, result_ofExcept_eq_ok.mpr ⟨isLowered, rfl⟩, ?_⟩
    refine result_bind_eq_ok.mpr ⟨_, _, dispatched, ?_⟩
    exact result_bind_eq_ok.mpr ⟨records, _, result_ofExcept_eq_ok.mpr ⟨materialized, rfl⟩, rfl⟩

/-- What changes nothing calls no hook: it is fetched. -/
theorem perform_unchanging {query : LogicalQuery σ} (unchanging : query.method.isMutation = false) (run : Run σ) :
    result (registry.perform registered query) run = result (registry.fetch registered query.method query) run := by
  have left : result (registered.callBefore query) run = (.ok query, run) := by
    unfold RegisteredModel.callBefore
    cases method : query.method <;> first | rfl | simp [method, Method.isMutation] at unchanging
  have noHook : HookName.after? query.method = none := by
    cases method : query.method <;> first | rfl | simp [method, Method.isMutation] at unchanging
  unfold perform
  rw [result_bind_of_ok left]
  rcases fetched : result (registry.fetch registered query.method query) run with ⟨error | outcome, after⟩
  · exact result_bind_of_error fetched
  · rw [result_bind_of_ok fetched]
    cases outcome with
    | records records =>
      unfold RegisteredModel.callAfter
      rw [noHook]
      rfl
    | nothing | count | number => rfl

/-- A find calls no hook: it fetches its records. -/
theorem perform_find {query : LogicalQuery σ} (find : query.method = .find) (run : Run σ) :
    result (registry.perform registered query) run = result (registry.fetch registered .find query) run := by
  rw [perform_unchanging (by rw [find]; rfl), find]

/-- A find that succeeds was a noop and found nothing, or was compiled and fetched its records. -/
theorem execute_find_eq_ok {description : Description σ} (find : description.method = .find)
    (found : registry.model? description.model = some registered) {now : Instant}
    {run after : Run σ} {outcome : Outcome}
    (done : result (registry.execute now description) run = (.ok outcome, after)) :
    (∃ details, description.compile registry now = .error (.noop details) ∧ outcome = .records []) ∨
      ∃ compiled, description.compile registry now = .ok compiled ∧
        result (registry.fetch registered .find compiled) run = (.ok outcome, after) := by
  rcases execute_eq_ok found done with ⟨details, noop, rfl, -⟩ | ⟨compiled, isCompiled⟩
  · rw [find]
    exact .inl ⟨details, noop, rfl⟩
  · obtain ⟨_, _, made⟩ := Description.compile_eq_ok.mp isCompiled
    rw [execute_of_compile found isCompiled, find, if_neg (by decide),
      perform_find (made.method_eq.trans find)] at done
    exact .inr ⟨compiled, isCompiled, done⟩

/-- A find reads the rows that the store finds for it. -/
theorem execute_find_of_found {query : Description σ} (found : registry.model? query.model = some registered)
    (inStore : registered.adapter = place.adapter) (find : query.method = .find) {now : Instant}
    {compiled : LogicalQuery σ} (compilation : query.compile registry now = .ok compiled)
    {physical : PhysicalQuery} (lowering : compiled.lower registered registry = .ok physical) {run : Run σ}
    {answer : List Record}
    (isFound : (place.part run.environment).find registered.datastore physical = .ok answer) :
    result (registry.execute now query) run =
      ((registry.materialize registered physical.joins physical.options answer).map .records,
        run.queried registered physical) := by
  obtain ⟨_, _, made⟩ := Description.compile_eq_ok.mp compilation
  have lowered := LogicalQuery.lower_eq_ok.mp lowering
  have isFind : physical.method = .find := lowered.method_eq.trans (made.method_eq.trans find)
  have answered : registered.answer? physical run.environment =
      some (.ok (some (.list (answer.map .record))), run.environment) := by
    rw [RegisteredModel.answer?_find inStore isFind, isFound]
    rfl
  have quiet : registered.unrequested physical (some (.list (answer.map .record))) = [] := by
    rw [RegisteredModel.unrequested, isFind]
    rfl
  rw [execute_of_compile found compilation, find, if_neg (by decide), perform_find (made.method_eq.trans find),
    fetch_of_ok lowering lowered.options_eq answered, quiet, reading, isFind, Outcome.ofReply_find]
  rfl

/-! ## What a find finds -/

/-- A row without joins is raised and perhaps verified. -/
theorem materializeRow_nil (verified : Bool) (row : Record) :
    registry.materializeRow registered [] verified row = registered.raise row >>= fun record =>
      if verified then (registered.verify record).map fun _ => record else .ok record := by
  unfold materializeRow Join.detach
  dsimp only
  cases registered.raise row with
  | error error => rfl
  | ok record =>
    cases verified with
    | false => rfl
    | true =>
      simp only [bind, Except.bind, List.foldlM_nil, pure, Except.pure, if_true]
      cases registered.verify record <;> rfl

theorem materializeRow_eq_ok {verified : Bool} {row record : Record}
    (done : registry.materializeRow registered [] verified row = .ok record) :
    registered.columns.raise row = .ok record := by
  rw [materializeRow_nil] at done
  obtain ⟨raised, raising, done⟩ := bind_eq_ok.mp done
  rw [mapError_eq_ok.mp raising]
  split at done
  · obtain ⟨-, -, rfl⟩ := map_eq_ok.mp done
    rfl
  · rw [Except.ok.inj done]

/-- Materializing the rows of records gives the records back. -/
theorem materialize_rows (faithful : registered.columns.Faithful) {records found : List Record}
    {options : Meta}
    (each : ∀ record ∈ records, registered.columns.Storable record)
    (done : registry.materialize registered [] options (records.map registered.columns.rowOf) = .ok found) :
    found = records := by
  have raised : found.map Except.ok = (records.map registered.columns.rowOf).map registered.columns.raise :=
    map_eq_of_mapM (fun _ _ _ step => (materializeRow_eq_ok step).symm) done
  have back : (records.map registered.columns.rowOf).map registered.columns.raise =
      records.map Except.ok := by
    rw [List.map_map]
    exact List.map_congr_left fun record member => faithful.raise_rowOf (each record member)
  exact (List.map_inj_right fun _ _ => Except.ok.inj).mp (raised.trans back)

end Registry

/-- Without joins, a store finds the rows that criteria select, cut down to what they show. -/
theorem Store.find_of_rows {store : Store} {datastore : String} {query : PhysicalQuery}
    {rows : List Record} (stored : store.rows datastore query.table = .ok rows)
    (noJoins : query.joins = []) :
    store.find datastore query =
      .ok ((query.criteria.select rows).map (Record.project query.criteria.selection [])) := by
  have noChildren : store.children datastore query.joins = .ok [] := by
    rw [noJoins]
    rfl
  unfold find
  rw [stored, noChildren, noJoins]
  simp [bind, Except.bind, pure, Except.pure]

/-- With one join, a store finds the rows that criteria select, with what the join embeds in them. -/
theorem Store.find_of_join {store : Store} {datastore : String} {query : PhysicalQuery} {join : Join}
    (single : query.joins = [join]) {rows children : List Record}
    (stored : store.rows datastore query.table = .ok rows)
    (childrenStored : store.rows datastore join.childTable = .ok children) :
    store.find datastore query = .ok ((query.criteria.select rows).map fun row =>
      Record.project query.criteria.selection [join.field] (Join.attach row (join, children))) := by
  have isJoined : store.children datastore [join] = .ok [(join, children)] := by
    rw [Store.children, List.mapM_cons, childrenStored]
    rfl
  rw [Store.find, stored, single, isJoined]
  simp only [bind, Except.bind, pure, Except.pure, List.map_map]
  rfl

namespace Registry

variable {registry : Registry σ} {registered : RegisteredModel σ} {place : Store.Place σ}

/-- A fetch of the rows of records finds of them what the criteria select, with the attributes that
are shown. -/
theorem records_of_fetch (inStore : registered.adapter = place.adapter) {models : List Model}
    (valid : registered.model.Valid models)
    (ofModel : registered.columns = Columns.ofModel registered.model)
    {query : LogicalQuery σ} (find : query.method = .find) (noPopulates : query.populates = [])
    (choice : query.criteria.selection = none ∨ query.criteria.omission = []) {run after : Run σ}
    {records rows : List Record} (rowsOf : registered.columns.RowsOf records rows)
    (stored : (place.part run.environment).rows registered.datastore registered.model.table = .ok rows)
    {origin : Method} {outcome : Outcome}
    (done : result (registry.fetch registered origin query) run = (.ok outcome, after)) :
    outcome = .records ((query.criteria.select records).map fun record =>
      record.filter fun entry => query.criteria.shows entry.1) := by
  obtain ⟨physical, answer, found, isLowered, read, materialized, rfl, -⟩ :=
    (fetch_find_eq_ok inStore find).mp done
  obtain rfl := rowsOf.rows_eq
  have storable := rowsOf.storable
  have faithful : registered.columns.Faithful := ofModel ▸ Columns.faithful_ofModel valid
  have parts := LogicalQuery.lower_eq_ok.mp isLowered
  have noJoins : physical.joins = [] := by
    have joins := parts.joins
    rw [noPopulates] at joins
    exact (pure_eq_ok.mp joins).symm
  have renamed := parts.criteria
  rw [noJoins] at renamed
  change (LogicalQuery.resolveOmission registered.model query.criteria).rename _ = _ at renamed
  have covered {record : Record} (member : record ∈ records) :
      registered.model.Stores (Dictionary.names record) := by
    intro name isName
    exact Columns.exists_column_iff.mp ⟨_, ofModel ▸ (storable record member).covers name isName⟩
  have selected : physical.criteria.select (records.map registered.columns.rowOf) =
      (query.criteria.select records).map registered.columns.rowOf := by
    rw [Criteria.select_rename renamed fun record member _ _ =>
      faithful.get?_rowOf (storable record member), Criteria.select_resolveOmission]
  have cut : answer = ((query.criteria.select records).map fun record =>
      record.filter fun entry => query.criteria.shows entry.1).map registered.columns.rowOf := by
    rw [Store.find_of_rows (parts.table_eq ▸ stored) noJoins, selected, List.map_map] at read
    rw [← Except.ok.inj read, List.map_map]
    refine List.map_congr_left fun record isSelected => ?_
    have member := Criteria.mem_of_mem_select isSelected
    exact Criteria.project_rowOf faithful choice renamed (storable record member) (covered member)
  rw [noJoins, cut] at materialized
  refine congrArg Outcome.records (materialize_rows faithful (fun shown member => ?_) materialized)
  obtain ⟨record, isSelected, rfl⟩ := List.mem_map.mp member
  exact (storable record (Criteria.mem_of_mem_select isSelected)).filter _

/-- A find that succeeds, of a model of a registry that was built whose table is in a store and
holds the rows of some records, answers with what its raw criteria find in these records. -/
theorem execute_find_eq_found {configuration : Configuration} {adapters : Dictionary (Adapter σ)}
    {hooks : Dictionary (Hooks σ)} {start finish : Run σ}
    (built : result (build configuration adapters hooks) start = (.ok registry, finish))
    {description : Description σ} (found : registry.model? description.model = some registered)
    (inStore : registered.adapter = place.adapter) (find : description.method = .find)
    (noPopulates : description.populates.getD [] = []) {run after : Run σ} {records rows : List Record}
    (rowsOf : registered.columns.RowsOf records rows)
    (stored : (place.part run.environment).rows registered.datastore registered.model.table = .ok rows)
    {now : Instant} {outcome : Outcome}
    (done : result (registry.execute now description) run = (.ok outcome, after)) :
    outcome = .records (RawCriteria.found registered.model.primaryKey description.criteria records) := by
  have holds := built_of_build built
  have criteria : description.compileCriteria registered.model =
      Criteria.read registered.model description.method description.criteria := by
    rw [Description.compileCriteria, find]
    rfl
  rcases execute_find_eq_ok find found done with ⟨details, noop, rfl⟩ | ⟨compiled, isCompiled, fetched⟩
  · obtain ⟨_, same, -, inCriteria | inRecords⟩ := Description.compile_eq_noop noop
    · obtain rfl := Option.some.inj (found.symm.trans same)
      rw [RawCriteria.found, Criteria.selected_of_noop (criteria ▸ inCriteria)]
      rfl
    · rw [Description.compileRecords, find] at inRecords
      cases inRecords
  · obtain ⟨_, same, made⟩ := Description.compile_eq_ok.mp isCompiled
    obtain rfl := Option.some.inj (found.symm.trans same)
    have parts := Criteria.readFrom_of_read (criteria ▸ made.criteria)
    have noneCompiled : compiled.populates = [] := by
      have populates := made.populates
      unfold Description.compilePopulates at populates
      split at populates
      · next entries given =>
        rw [given] at noPopulates
        obtain rfl : entries = [] := noPopulates
        exact (pure_eq_ok.mp populates).symm
      · exact (Except.ok.inj populates).symm
    rw [records_of_fetch inStore (holds.valid_of_model? found) (holds.columns_eq found) (made.method_eq.trans find)
      noneCompiled parts.selection_or_omission rowsOf stored fetched, RawCriteria.found, parts.select_eq]
    simp only [parts.shows_eq]

/-- Three users. -/
def users : List Record :=
  [[("id", .ofNat 1), ("name", .text "Ada")], [("id", .ofNat 2), ("name", .text "Bob")],
    [("id", .ofNat 3), ("name", .text "Cyd")]]

/-- Their rows. -/
def userRows : List Record :=
  [[("full_name", .text "Ada"), ("id", .ofNat 1)], [("full_name", .text "Bob"), ("id", .ofNat 2)],
    [("full_name", .text "Cyd"), ("id", .ofNat 3)]]

/-- Two more users. -/
def laterUsers : List Record :=
  [[("id", .ofNat 4), ("name", .text "Dan")], [("id", .ofNat 5), ("name", .text "Eve")]]

/-- Their rows. -/
def laterUserRows : List Record :=
  [[("full_name", .text "Dan"), ("id", .ofNat 4)], [("full_name", .text "Eve"), ("id", .ofNat 5)]]

/-- A find of the name of one user, backwards and after the first, among those with an A in their names and
another one. -/
def findNames : Description Store where
  method := .find
  model := "user"
  criteria := some (.record [("limit", .ofNat 1), ("select", .list [.text "name"]), ("skip", .ofNat 1),
    ("sort", .record [("name", .text "DESC")]),
    ("where", .record [("or", .list [.record [("name", .record [("contains", .text "A")])],
      .record [("name", .record [("in", .list [.text "Cyd"])])]])])])

set_option maxRecDepth 2000 in
/-- Of five users three are meant, and the find finds the name of the second one from the back, with the key. -/
theorem findNames_found :
    ∃ (registry : Registry Store) (start finish run after : Run Store),
      result (build .usersAndPets [("memory", Store.Place.alone.adapter)] []) start = (.ok registry, finish) ∧
      run.environment.rows "default" "user" = .ok (userRows ++ laterUserRows) ∧
      result (registry.execute ⟨0⟩ findNames) run =
        (.ok (.records [[("id", .ofNat 3), ("name", .text "Cyd")]]), after) := by
  let start : Run Store := { environment := { keys := { draw := toString } } }
  let built := result (build .usersAndPets [("memory", Store.Place.alone.adapter)] []) start
  let table : Table := { definition := { table := "user", primaryKey := "id" }, rows := userRows ++ laterUserRows }
  let run : Run Store := { environment := built.2.environment.put "default" "user" table }
  have succeeds {registry : Registry Store} (isBuilt : built.1 = .ok registry) :
      (result (registry.execute ⟨0⟩ findNames) run).1.isOk = true := by
    obtain rfl := Except.ok.inj isBuilt
    cbv
  cases executed : result (Registry.execute _ ⟨0⟩ findNames) run with
  | mk outcome after =>
    have done := succeeds rfl
    rw [executed] at done
    cases outcome with
    | error error => cases done
    | ok outcome =>
      have found := execute_find_eq_found (show built = _ from rfl) rfl
        (show _ = Store.Place.alone.adapter from rfl)
        rfl rfl ⟨show ∀ record ∈ users ++ laterUsers, Dictionary.Sorted record by decide, rfl⟩ rfl executed
      refine ⟨_, start, _, run, after, rfl, rfl, ?_⟩
      rw [executed, found]
      cbv

end Registry

end RecordMapper
