import Mathlib
import RecordMapper.Proofs.Execution.Asking
import RecordMapper.Proofs.Execution.Populating
import RecordMapper.Proofs.Model.Settled
import RecordMapper.Proofs.Query.Aggregates

/-! # Aggregates and what is found

A count, a sum and a mean go their own ways to the rows of a table, and agree with a find of the same criteria on which
rows are meant. A sum reads the column of its attribute. A find shows what the column holds under the name of the
attribute, and also a field of that name which no attribute has as its column: only such rows tell the two apart.
-/

namespace RecordMapper

open Attempt Results

variable {σ : Type}

/-! ## From the store to the outcome -/

/-- The mean of numbers, zero over none; `none` when their sum leaves the range of doubles. -/
def Double.mean? (numbers : List Double) : Option Double :=
  if numbers.isEmpty then some (.zero false)
  else (Double.sum? numbers).bind fun total => total.divideBy numbers.length

theorem Double.mean?_eq_some {numbers : List Double} {mean : Double} :
    Double.mean? numbers = some mean ↔
      numbers = [] ∧ mean = .zero false ∨
        numbers ≠ [] ∧ ∃ total, Double.sum? numbers = some total ∧ total.divideBy numbers.length = some mean := by
  rw [Double.mean?]
  cases numbers with
  | nil => simp [eq_comm]
  | cons first rest => simp [Option.bind_eq_some_iff]

namespace Store

variable {store : Store} {datastore : String} {query : PhysicalQuery} {rows : List Record}
  (stored : store.rows datastore query.table = .ok rows) (options : Meta)

include stored

/-- A count is answered with how many rows are meant. -/
theorem answer?_count :
    store.answer? datastore (query.aggregating .count none options) =
      some (.ok (some (.ofNat (query.criteria.select rows).length)), store) := by
  have counted : store.count datastore (query.aggregating .count none options) =
      .ok (query.criteria.select rows).length := by
    simp only [count, PhysicalQuery.aggregating, stored]
    rfl
  rw [answer?]
  dsimp only [PhysicalQuery.aggregating] at counted ⊢
  rw [counted]
  rfl

variable (column : String)

/-- Both a sum and a mean take the numbers that the rows hold in a column. -/
theorem numbers_aggregating (method : Method) :
    store.numbers datastore (query.aggregating method (some column) options) =
      .ok (Record.numbers column (query.criteria.select rows)) := by
  simp only [numbers, PhysicalQuery.aggregating, stored]
  rfl

/-- A sum is answered with that of the numbers that the rows hold in a column. -/
theorem answer?_sum :
    store.answer? datastore (query.aggregating .sum (some column) options) = some
      (.ok (some (numberOrNull (Double.sum? (Record.numbers column (query.criteria.select rows))))), store) := by
  have numbers := numbers_aggregating stored options column .sum
  rw [answer?]
  dsimp only [PhysicalQuery.aggregating] at numbers ⊢
  rw [sum, numbers]
  rfl

/-- A mean is answered with that of the numbers that the rows hold in a column. -/
theorem answer?_avg :
    store.answer? datastore (query.aggregating .avg (some column) options) = some
      (.ok (some (numberOrNull (Double.mean? (Record.numbers column (query.criteria.select rows))))), store) := by
  have numbers := numbers_aggregating stored options column .avg
  rw [answer?]
  dsimp only [PhysicalQuery.aggregating] at numbers ⊢
  rw [average, numbers]
  rfl

end Store

/-- A number that was answered is read as it is, and what is no number is refused. -/
theorem Outcome.ofReply_numberOrNull {method : Method} (takes : method.takesNumericAttribute = true) (options : Meta)
    {value : Option Double} {outcome : Outcome} :
    ofReply method options (some (Store.numberOrNull value)) = .ok outcome ↔
      ∃ number, value = some number ∧ outcome = .number number := by
  cases method <;> simp only [Method.takesNumericAttribute, Bool.false_eq_true] at takes
  all_goals cases value <;> simp [ofReply, Store.numberOrNull, Json.double?, Number.toDouble, eq_comm]

namespace Registry

variable {registry : Registry σ} {registered : RegisteredModel σ} {place : Store.Place σ} {query : Description σ}
  {now later : Instant} {run other after : Run σ} {compiled : LogicalQuery σ} {physical : PhysicalQuery}

/-- A reply that may be a number comes to it, or is refused. -/
theorem reading_numberOrNull {physical : PhysicalQuery} (takes : physical.method.takesNumericAttribute = true)
    {value : Option Double} {outcome : Outcome} :
    registry.reading registered physical (some (Store.numberOrNull value)) = .ok outcome ↔
      ∃ number, value = some number ∧ outcome = .number number := by
  rw [← Outcome.ofReply_numberOrNull takes physical.options, reading]
  cases read : Outcome.ofReply physical.method physical.options (some (Store.numberOrNull value)) with
  | error breach => exact iff_of_false (by simp) (by simp)
  | ok told =>
    obtain ⟨number, -, rfl⟩ := (Outcome.ofReply_numberOrNull takes physical.options).mp read
    simp only [Except.ok.injEq]

/-- What changes nothing comes to what the reply to its query is read as. -/
theorem execute_unchanging (found : registry.model? query.model = some registered)
    (unchanging : query.method.isMutation = false) (notStream : query.method ≠ .stream)
    (compilation : query.compile registry now = .ok compiled)
    (lowering : compiled.lower registered registry = .ok physical) {payload : Option Json} {environment : σ}
    (answered : registered.answer? physical run.environment = some (.ok payload, environment)) :
    (result (registry.execute now query) run).1 = registry.reading registered physical payload := by
  obtain ⟨_, -, made⟩ := Description.compile_eq_ok.mp compilation
  rw [execute_of_compile found compilation, if_neg notStream,
    perform_unchanging (by rw [made.method_eq, unchanging]),
    fetch_of_ok lowering (LogicalQuery.lower_eq_ok.mp lowering).options_eq answered]

section Stored

variable (found : registry.model? query.model = some registered) (inStore : registered.adapter = place.adapter)
  (find : query.method = .find) (made : query.CompiledTo registry now registered.model compiled)
  (noPopulates : compiled.populates = []) (countable : registered.model.Countable query.criteria)
  (lowered : compiled.LoweredTo registered registry physical) {rows : List Record}
  (stored : (place.part other.environment).rows registered.datastore physical.table = .ok rows) (options : Meta)

include found inStore find made noPopulates countable lowered

/-- What an aggregate comes to is what the reply of the store to its query is read as. -/
theorem execute_aggregating {method : Method} {numericAttribute : Option String}
    (aggregates : registered.model.Aggregates method numericAttribute)
    (columns : ∀ name ∈ numericAttribute, registered.columns.column name = .ok (registered.columns.columnOf name))
    {payload : Option Json} {next : Store}
    (answered : (place.part other.environment).answer? registered.datastore
      (physical.aggregating method (numericAttribute.map registered.columns.columnOf) options) =
        some (.ok payload, next)) :
    (result (registry.execute later (query.aggregating method numericAttribute options)) other).1 =
      registry.reading registered
        (physical.aggregating method (numericAttribute.map registered.columns.columnOf) options) payload := by
  have sameModel : registry.model? (query.aggregating method numericAttribute options).model = some registered := found
  have compilation := Description.compile_aggregating find found made countable aggregates options later
  have lowering := lowered.aggregating noPopulates columns method options
  have isAnswered : registered.answer?
      (physical.aggregating method (numericAttribute.map registered.columns.columnOf) options) other.environment =
        some (.ok payload, place.put other.environment next) := by
    rw [RegisteredModel.answer?_inStore inStore aggregates.ne_stream, answered]
    rfl
  exact execute_unchanging sameModel aggregates.isMutation aggregates.ne_stream compilation lowering isAnswered

include stored

/-- A count counts the rows that are meant. -/
theorem execute_count :
    (result (registry.execute later (query.aggregating .count none options)) other).1 =
      .ok (.count (physical.criteria.select rows).length) := by
  have answered := Store.answer?_count stored options
  rw [execute_aggregating found inStore find made noPopulates countable lowered options .count (by simp) answered]
  simp [reading, Outcome.ofReply, Json.ofNat, Json.nat?, Number.toNat?, PhysicalQuery.aggregating]

variable {name : String} (number : registered.model.kind? name = some (.scalar .number))
  (isColumn : registered.columns.column name = .ok (registered.columns.columnOf name)) {outcome : Outcome}

include number isColumn

/-- A sum is that of the numbers in the column of its attribute, in the rows that are meant. -/
theorem execute_sum_eq_ok :
    (result (registry.execute later (query.aggregating .sum (some name) options)) other).1 = .ok outcome ↔
      ∃ total, Double.sum? (Record.numbers (registered.columns.columnOf name) (physical.criteria.select rows)) =
        some total ∧ outcome = .number total := by
  have answered := Store.answer?_sum stored options (registered.columns.columnOf name)
  rw [execute_aggregating found inStore find made noPopulates countable lowered options (.sum number)
    (by rintro _ ⟨⟩; exact isColumn) answered]
  exact reading_numberOrNull rfl

/-- A mean is that of the numbers in the column of its attribute, in the rows that are meant. -/
theorem execute_avg_eq_ok :
    (result (registry.execute later (query.aggregating .avg (some name) options)) other).1 = .ok outcome ↔
      ∃ mean, Double.mean? (Record.numbers (registered.columns.columnOf name) (physical.criteria.select rows)) =
        some mean ∧ outcome = .number mean := by
  have answered := Store.answer?_avg stored options (registered.columns.columnOf name)
  rw [execute_aggregating found inStore find made noPopulates countable lowered options (.avg number)
    (by rintro _ ⟨⟩; exact isColumn) answered]
  exact reading_numberOrNull rfl

end Stored

/-! ## What is found and what is added up -/

/-- The rows that a find reads, and the records that it shows of them. -/
structure Shows (registry : Registry σ) (registered : RegisteredModel σ) (now : Instant) (query : Description σ)
    (store : Store) (rows records : List Record) : Prop where
  /-- The store answers the query with these rows. -/
  found : ∀ compiled physical, query.compile registry now = .ok compiled →
    compiled.lower registered registry = .ok physical → store.find registered.datastore physical = .ok rows
  /-- All of them are in the table. -/
  stored : ∀ row ∈ rows, ∃ kept, store.rows registered.datastore registered.model.table = .ok kept ∧ row ∈ kept
  raised : rows.mapM registered.columns.raise = .ok records

/-- The criteria of a compiled query that choose no attributes choose none when they are lowered. -/
theorem selection_of_unchosen (lowered : compiled.LoweredTo registered registry physical)
    (unchosen : compiled.criteria.selection = none ∧ compiled.criteria.omission = []) :
    physical.criteria.selection = none := by
  have renamed := lowered.criteria
  rw [LogicalQuery.resolveOmission, unchosen.2, List.isEmpty_nil, if_pos rfl,
    LogicalQuery.showKeys_of_unselected unchosen.1] at renamed
  have selection := (Criteria.rename_eq_ok.mp renamed).2.2.1
  rw [unchosen.1] at selection
  exact (Except.ok.inj selection).symm

/-- A find without associations of what a count takes was certain to find nothing, or shows the rows that are meant. -/
theorem shows_of_execute_find (found : registry.model? query.model = some registered)
    (inStore : registered.adapter = place.adapter) (find : query.method = .find)
    (noPopulates : query.populates.getD [] = []) (countable : registered.model.Countable query.criteria)
    {outcome : Outcome} (done : result (registry.execute now query) run = (.ok outcome, after)) :
    (∃ details, query.compile registry now = .error (.noop details) ∧ outcome = .records []) ∨
      ∃ compiled physical kept records, query.CompiledTo registry now registered.model compiled ∧
        compiled.populates = [] ∧ compiled.LoweredTo registered registry physical ∧
        (place.part run.environment).rows registered.datastore physical.table = .ok kept ∧
        registry.Shows registered now query (place.part run.environment) (physical.criteria.select kept) records ∧
        outcome = .records records := by
  refine (execute_find_eq_ok find found done).imp_right ?_
  rintro ⟨compiled, compilation, fetched⟩
  obtain ⟨_, same, made⟩ := Description.compile_eq_ok.mp compilation
  obtain rfl := Option.some.inj (found.symm.trans same)
  obtain ⟨physical, answer, records, lowering, read, materialized, rfl, -⟩ :=
    (fetch_find_eq_ok inStore (made.method_eq.trans find)).mp fetched
  have lowered := LogicalQuery.lower_eq_ok.mp lowering
  have noneCompiled : compiled.populates = [] := by
    have populates := made.populates
    rw [compilePopulates_eq, noPopulates] at populates
    exact (pure_eq_ok.mp populates).symm
  have noJoins : physical.joins = [] := by
    have joins := lowered.joins
    rw [noneCompiled] at joins
    exact (pure_eq_ok.mp joins).symm
  have criteria : Criteria.read registered.model .find query.criteria = .ok compiled.criteria := by
    rw [← made.criteria, Description.compileCriteria, find]
    rfl
  have unselected := selection_of_unchosen lowered (countable.unchosen rfl criteria)
  have stored : ∃ kept, (place.part run.environment).rows registered.datastore physical.table = .ok kept := by
    cases kept : (place.part run.environment).rows registered.datastore physical.table with
    | ok rows => exact ⟨rows, rfl⟩
    | error error =>
      rw [Store.find, kept] at read
      cases read
  obtain ⟨kept, isKept⟩ := stored
  have answered := read
  have whole : Record.project none [] = id := rfl
  rw [Store.find_of_rows isKept noJoins, unselected, whole, List.map_id] at answered
  obtain rfl := Except.ok.inj answered
  refine ⟨compiled, physical, kept, records, made, noneCompiled, lowered, isKept, ⟨?_, ?_, ?_⟩, rfl⟩
  · intro _ _ isCompiled isLowered
    obtain rfl := Except.ok.inj (compilation.symm.trans isCompiled)
    obtain rfl := Except.ok.inj (lowering.symm.trans isLowered)
    exact read
  · intro row member
    exact ⟨kept, lowered.table_eq ▸ isKept, Criteria.mem_of_mem_select member⟩
  · rw [noJoins] at materialized
    rw [mapM_eq_ok_iff_forall₂]
    exact (mapM_eq_ok_iff_forall₂.mp materialized).imp fun row record step => materializeRow_eq_ok step

/-- What the aggregates of a query come to: the count is a number of records, and the sums and means are those of the
numbers under an attribute. A sum that leaves the range of doubles is refused. -/
structure Aggregated (registry : Registry σ) (registered : RegisteredModel σ) (now : Instant) (query : Description σ)
    (options : Meta) (run : Run σ) (count : Nat) (numbers : String → List Double) : Prop where
  count : (result (registry.execute now (query.aggregating .count none options)) run).1 = .ok (.count count)
  sum : ∀ name, registered.model.kind? name = some (.scalar .number) → ∀ answer,
    (result (registry.execute now (query.aggregating .sum (some name) options)) run).1 = .ok answer ↔
      ∃ total, Double.sum? (numbers name) = some total ∧ answer = .number total
  avg : ∀ name, registered.model.kind? name = some (.scalar .number) → ∀ answer,
    (result (registry.execute now (query.aggregating .avg (some name) options)) run).1 = .ok answer ↔
      numbers name = [] ∧ answer = .number (.zero false) ∨
        numbers name ≠ [] ∧ ∃ total mean, Double.sum? (numbers name) = some total ∧
          total.divideBy (numbers name).length = some mean ∧ answer = .number mean

/-- The aggregates of what is certain to match nothing are those of nothing. -/
theorem aggregated_of_noop (found : registry.model? query.model = some registered) (find : query.method = .find)
    (countable : registered.model.Countable query.criteria) {details : String}
    (noop : query.compile registry now = .error (.noop details)) (options : Meta) :
    registry.Aggregated registered later query options other 0 fun _ => [] := by
  have executed {method : Method} {numericAttribute : Option String}
      (aggregates : registered.model.Aggregates method numericAttribute) :
      (result (registry.execute later (query.aggregating method numericAttribute options)) other).1 =
        .ok (.noop method options) := by
    have sameModel : registry.model? (query.aggregating method numericAttribute options).model = some registered :=
      found
    rw [execute_of_noop sameModel
      (Description.compile_aggregating_noop find found countable aggregates noop options later) other]
    rfl
  refine ⟨executed .count, fun name number answer => ?_, fun name number answer => ?_⟩
  · rw [executed (.sum number)]
    simp [Double.sum?, Outcome.noop, eq_comm]
  · rw [executed (.avg number)]
    simp [Outcome.noop, eq_comm]

/-- The aggregates of a find that is compiled range over the rows that are meant, in the columns of their attributes. -/
theorem aggregated_of_lowered (found : registry.model? query.model = some registered)
    (inStore : registered.adapter = place.adapter) (find : query.method = .find)
    (made : query.CompiledTo registry now registered.model compiled) (noPopulates : compiled.populates = [])
    (countable : registered.model.Countable query.criteria) (lowered : compiled.LoweredTo registered registry physical)
    {rows : List Record}
    (stored : (place.part other.environment).rows registered.datastore physical.table = .ok rows)
    (columns : ∀ name, registered.model.kind? name = some (.scalar .number) →
      registered.columns.column name = .ok (registered.columns.columnOf name)) (options : Meta) :
    registry.Aggregated registered later query options other (physical.criteria.select rows).length fun name =>
      Record.numbers (registered.columns.columnOf name) (physical.criteria.select rows) := by
  refine ⟨execute_count found inStore find made noPopulates countable lowered stored options,
    fun name number answer => execute_sum_eq_ok found inStore find made noPopulates countable lowered stored options
      number (columns name number), fun name number answer => ?_⟩
  rw [execute_avg_eq_ok found inStore find made noPopulates countable lowered stored options number
    (columns name number)]
  simp only [Double.mean?_eq_some]
  constructor
  · rintro ⟨mean, ⟨empty, rfl⟩ | ⟨notEmpty, total, isTotal, isMean⟩, rfl⟩
    · exact .inl ⟨empty, rfl⟩
    · exact .inr ⟨notEmpty, total, mean, isTotal, isMean, rfl⟩
  · rintro (⟨empty, rfl⟩ | ⟨notEmpty, total, mean, isTotal, isMean, rfl⟩)
    · exact ⟨_, .inl ⟨empty, rfl⟩, rfl⟩
    · exact ⟨mean, .inr ⟨notEmpty, total, isTotal, isMean⟩, rfl⟩

/-- If a find without associations of what a count takes succeeds in a store, then, while the store stays as it is, a
count of the same criteria is the number of the records found, and the sum and the mean over an attribute are those of
the numbers that these records show under it. They leave out the records whose rows hold, instead of the column of the
attribute, a field under its name which no attribute has as its column. -/
theorem aggregates_agree {configuration : Configuration} {adapters : Dictionary (Adapter σ)}
    {hooks : Dictionary (Hooks σ)} {start finish : Run σ}
    (built : result (build configuration adapters hooks) start = (.ok registry, finish))
    (found : registry.model? query.model = some registered) (inStore : registered.adapter = place.adapter)
    (find : query.method = .find) (noPopulates : query.populates.getD [] = [])
    (countable : registered.model.Countable query.criteria) {outcome : Outcome}
    (done : result (registry.execute now query) run = (.ok outcome, after)) :
    ∃ rows records, outcome = .records records ∧
      registry.Shows registered now query (place.part run.environment) rows records ∧
      (∀ other : Run σ, place.part other.environment = place.part run.environment → ∀ later options,
        registry.Aggregated registered later query options other records.length fun name =>
          Record.numbers name (registered.columns.settled name rows records)) ∧
      ∀ name, (∀ row ∈ rows, registered.columns.strays name row = false) →
        registered.columns.settled name rows records = records := by
  rcases shows_of_execute_find found inStore find noPopulates countable done with
    ⟨details, noop, rfl⟩ | ⟨compiled, physical, kept, records, made, noneCompiled, lowered, isKept, shows, rfl⟩
  · refine ⟨[], [], rfl, ⟨?_, List.forall_mem_nil _, rfl⟩, fun other _ later options => ?_, fun _ _ => rfl⟩
    · intro compiled _ isCompiled _
      rw [noop] at isCompiled
      cases isCompiled
    · exact aggregated_of_noop found find countable noop options
  · have holds := built_of_build built
    have ofModel := holds.columns_eq found
    have valid := holds.valid_of_model? found
    have lengths := length_of_mapM shows.raised
    have columns (name : String) (number : registered.model.kind? name = some (.scalar .number)) :
        registered.columns.column name = .ok (registered.columns.columnOf name) := by
      obtain ⟨column, isColumn⟩ :=
        (holds.exists_column_iff found).mpr (Model.mem_stored_of_kind? number (by simp))
      rw [isColumn, Columns.columnOf_of_ok isColumn]
    refine ⟨_, records, rfl, shows, fun other same later options => ?_, fun name noneStrays =>
      Columns.settled_eq lengths noneStrays⟩
    have aggregated : registry.Aggregated registered later query options other _ _ :=
      aggregated_of_lowered found inStore find made noneCompiled countable lowered (same ▸ isKept) columns options
    have numbers (name : String) (number : registered.model.kind? name = some (.scalar .number)) :
        Record.numbers (registered.columns.columnOf name) (physical.criteria.select kept) =
          Record.numbers name (registered.columns.settled name (physical.criteria.select kept) records) := by
      have isColumn := columns name number
      have raised := mapM_eq_ok_iff_forall₂.mp shows.raised
      rw [ofModel] at isColumn raised ⊢
      exact Columns.numbers_column valid raised (Columns.column_eq_ok_iff.mp isColumn)
    refine ⟨lengths ▸ aggregated.count, fun name number => ?_, fun name number => ?_⟩
    · rw [← numbers name number]
      exact aggregated.sum name number
    · rw [← numbers name number]
      exact aggregated.avg name number

/-- Users and people in one table; the age of a user has a column of another name. -/
def usersAndPeople : Configuration where
  datastores := [("default", { adapter := "memory" })]
  models := [
    { identity := "user", datastore := "default"
      attributes := [("age", { Attribute.ofType .number with column := some "years" }), ("id", .ofType .number),
        ("name", .ofType .string)] },
    { identity := "person", datastore := "default", tableName := some "user"
      attributes := [("age", .ofType .number), ("id", .ofType .number)] }]

/-- The rows of five users, one of whom has no age. -/
def ageRows : List Record :=
  [[("id", .ofNat 1), ("name", .text "Ada"), ("years", .ofNat 5)],
    [("id", .ofNat 2), ("name", .text "Bob"), ("years", .ofNat 30)],
    [("id", .ofNat 3), ("name", .text "Cyd"), ("years", .null)],
    [("id", .ofNat 4), ("name", .text "Dan"), ("years", .ofNat 41)],
    [("id", .ofNat 5), ("name", .text "Eve"), ("years", .ofNat 7)]]

/-- A find of the three users after the first, backwards. -/
def findAges : Description Store where
  method := .find
  model := "user"
  criteria := some (.record [("limit", .ofNat 3), ("skip", .ofNat 1), ("sort", .record [("name", .text "DESC")]),
    ("where", .record [])])

/-- Three users are found and counted, and the ages of two of them are added up. -/
theorem findAges_agree :
    ∃ (registry : Registry Store) (start finish run after : Run Store) (mean : Double),
      result (build usersAndPeople [("memory", Store.Place.alone.adapter)] []) start = (.ok registry, finish) ∧
      run.environment.rows "default" "user" = .ok ageRows ∧
      result (registry.execute ⟨1⟩ findAges) run =
        (.ok (.records [[("age", .ofNat 41), ("id", .ofNat 4), ("name", .text "Dan")],
          [("age", .null), ("id", .ofNat 3), ("name", .text "Cyd")],
          [("age", .ofNat 30), ("id", .ofNat 2), ("name", .text "Bob")]]), after) ∧
      (result (registry.execute ⟨1⟩ (findAges.aggregating .count none {})) run).1 = .ok (.count 3) ∧
      (result (registry.execute ⟨1⟩ (findAges.aggregating .sum (some "age") {})) run).1 =
        .ok (.number (.ofInt 71)) ∧
      (Double.ofInt 71).divideBy 2 = some mean ∧
      (result (registry.execute ⟨1⟩ (findAges.aggregating .avg (some "age") {})) run).1 = .ok (.number mean) := by
  let start : Run Store := { environment := { keys := { draw := toString } } }
  let built := result (build usersAndPeople [("memory", Store.Place.alone.adapter)] []) start
  let table : Table := { definition := { table := "user", primaryKey := "id" }, rows := ageRows }
  let run : Run Store := { environment := built.2.environment.put "default" "user" table }
  let ages : List Record := [[("age", .ofNat 41), ("id", .ofNat 4), ("name", .text "Dan")],
    [("age", .null), ("id", .ofNat 3), ("name", .text "Cyd")],
    [("age", .ofNat 30), ("id", .ofNat 2), ("name", .text "Bob")]]
  have facts {registry : Registry Store} (isBuilt : built.1 = .ok registry) :
      ∃ registered, registry.model? findAges.model = some registered ∧
        registered.adapter = Store.Place.alone.adapter ∧
        (Criteria.read registered.model .count findAges.criteria).isOk = true ∧
        registered.model.kind? "age" = some (.scalar .number) ∧
        run.environment.rows registered.datastore registered.model.table = .ok ageRows ∧
        (∀ row ∈ ageRows, registered.columns.strays "age" row = false) ∧
        (result (registry.execute ⟨1⟩ findAges) run).1 = .ok (.records ages) := by
    obtain rfl := Except.ok.inj isBuilt
    exact ⟨_, rfl, rfl, by cbv, rfl, rfl, by decide, by cbv⟩
  obtain ⟨registry, isBuilt⟩ : ∃ registry, built.1 = .ok registry := ⟨_, rfl⟩
  obtain ⟨registered, found, inStore, counts, number, stored, settles, finds⟩ := facts isBuilt
  have builds : built = (.ok registry, built.2) := Prod.ext isBuilt rfl
  have countable : registered.model.Countable findAges.criteria := fun details invalid => by
    rw [invalid] at counts
    cases counts
  obtain ⟨rows, records, same, shows, agree, areSettled⟩ :=
    aggregates_agree builds found inStore rfl rfl countable (Prod.ext finds rfl)
  obtain rfl : ages = records := by simpa using same
  have settled := areSettled "age" fun row member => by
    obtain ⟨kept, isKept, inKept⟩ := shows.stored row member
    obtain rfl := Except.ok.inj (stored.symm.trans isKept)
    exact settles row inKept
  have aggregated := agree run rfl ⟨1⟩ {}
  have total : Double.sum? [.ofInt 41, .ofInt 30] = some (.ofInt 71) := by decide +kernel
  obtain ⟨mean, isMean⟩ := Option.isSome_iff_exists.mp (show ((Double.ofInt 71).divideBy 2).isSome by decide +kernel)
  have numbers : Record.numbers "age" (registered.columns.settled "age" rows ages) = [.ofInt 41, .ofInt 30] := by
    rw [settled]
    rfl
  have sum := (aggregated.sum "age" number (.number (.ofInt 71))).mpr ⟨_, numbers ▸ total, rfl⟩
  have avg := (aggregated.avg "age" number (.number mean)).mpr (by
    rw [numbers]
    exact .inr ⟨List.cons_ne_nil _ _, _, mean, total, isMean, rfl⟩)
  exact ⟨registry, start, built.2, run, _, mean, builds, rfl, Prod.ext finds rfl, aggregated.count, sum, isMean, avg⟩

/-- A person is created. -/
def createPerson : List (Instant × Description Store) :=
  [(⟨0⟩, { method := .create, model := "person", records := some (.record [("age", .ofNat 5)]) })]

/-- A find of all users. -/
def findEveryUser : Description Store where
  method := .find
  model := "user"

/-- The age of a person is found as that of a user, too, but it is not in the column in which the ages of users are
added up. -/
theorem personAge_not_summed :
    ∃ (registry : Registry Store) (start finish run after : Run Store),
      result (build usersAndPeople [("memory", Store.Place.alone.adapter)] []) start = (.ok registry, finish) ∧
      run = registry.after finish createPerson ∧
      result (registry.execute ⟨1⟩ findEveryUser) run =
        (.ok (.records [[("age", .ofNat 5), ("id", .ofNat 1)]]), after) ∧
      Double.sum? (Record.numbers "age" [[("age", .ofNat 5), ("id", .ofNat 1)]]) = some (.ofInt 5) ∧
      (result (registry.execute ⟨1⟩ (findEveryUser.aggregating .sum (some "age") {})) run).1 =
        .ok (.number (.zero false)) ∧
      (Double.zero false).same (.ofInt 5) = false := by
  let start : Run Store := { environment := { keys := { draw := toString } } }
  let built := result (build usersAndPeople [("memory", Store.Place.alone.adapter)] []) start
  have facts {registry : Registry Store} (isBuilt : built.1 = .ok registry) :
      (result (registry.execute ⟨1⟩ findEveryUser) (registry.after built.2 createPerson)).1 =
          .ok (.records [[("age", .ofNat 5), ("id", .ofNat 1)]]) ∧
        (result (registry.execute ⟨1⟩ (findEveryUser.aggregating .sum (some "age") {}))
          (registry.after built.2 createPerson)).1 = .ok (.number (.zero false)) := by
    obtain rfl := Except.ok.inj isBuilt
    exact ⟨by cbv, by cbv⟩
  obtain ⟨registry, isBuilt⟩ : ∃ registry, built.1 = .ok registry := ⟨_, rfl⟩
  obtain ⟨finds, sums⟩ := facts isBuilt
  exact ⟨registry, start, built.2, _, _, Prod.ext isBuilt rfl, rfl, Prod.ext finds rfl, by decide +kernel, sums,
    by decide +kernel⟩

end Registry

end RecordMapper
