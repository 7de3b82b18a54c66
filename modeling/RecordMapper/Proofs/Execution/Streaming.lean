import RecordMapper.Proofs.Execution.Feeding
import RecordMapper.Proofs.Execution.Finding
import RecordMapper.Proofs.Query.Paging
import RecordMapper.Proofs.Query.Streams

/-! # Streams deliver what finds find

A stream asks the store for one page of what it selects after the other. The pages are cut out of
the same rows, so that together they are what one find answers with, and the iteratee gets just
these records for as long as it goes on.
-/

namespace RecordMapper

open Attempt Results

variable {σ : Type}

/-! ## Pages of a list -/

/-- A batch of what remains is the beginning of it. -/
theorem takeUpTo_batch {α : Type} (remaining : Option Nat) (items : List α) :
    takeUpTo (some ((remaining.map (min batchSize)).getD batchSize)) items =
      (takeUpTo remaining items).take batchSize := by
  cases remaining with
  | none => rfl
  | some left => exact List.take_take.symm

/-- After a batch, what remains is the rest of it. -/
theorem takeUpTo_next {α : Type} (remaining : Option Nat) (items : List α) :
    takeUpTo (remaining.map (· - ((takeUpTo remaining items).take batchSize).length)) (items.drop batchSize) =
      (takeUpTo remaining items).drop batchSize := by
  cases remaining with
  | none => rfl
  | some left =>
    simp only [Option.map_some, takeUpTo, List.length_take]
    rw [List.drop_take]
    by_cases full : batchSize ≤ items.length
    · by_cases last : left ≤ batchSize
      · rw [Nat.sub_eq_zero_of_le last, Nat.sub_eq_zero_of_le (by omega)]
      · rw [show left - min batchSize (min left items.length) = left - batchSize by omega]
    · rw [List.drop_eq_nil_of_le (by omega), List.take_nil, List.take_nil]

/-- The pages of a find that succeeds are cut out of one list of rows. -/
theorem Store.find_page {store : Store} {datastore : String} {query : PhysicalQuery}
    {rows : List Record} (found : store.find datastore query = .ok rows) :
    ∃ all : List Record, rows = takeUpTo query.criteria.limit (all.drop query.criteria.skip) ∧
      ∀ skip limit, store.find datastore (query.page skip limit) =
        .ok (takeUpTo limit (all.drop skip)) := by
  unfold find at found
  obtain ⟨stored, isStored, found⟩ := bind_eq_ok.mp found
  obtain ⟨children, areChildren, found⟩ := bind_eq_ok.mp found
  obtain rfl := pure_eq_ok.mp found
  let shown (row : Record) : Record :=
    Record.project query.criteria.selection (query.joins.map Join.field) (children.foldl Join.attach row)
  let matched := stored.filter fun row => query.criteria.clause.accepts row
  refine ⟨(SortTerm.arrange query.criteria.sort matched).map shown, ?_, fun skip limit => ?_⟩
  · rw [Criteria.select, List.map_map, ← List.map_drop, takeUpTo_map]
    rfl
  · refine bind_eq_ok.mpr ⟨stored, isStored, bind_eq_ok.mpr ⟨children, areChildren, pure_eq_ok.mpr ?_⟩⟩
    rw [Criteria.select, List.map_map, ← List.map_drop, takeUpTo_map]
    rfl

/-- What has been delivered in a run. -/
def Run.deliveries (run : Run σ) : List Delivery :=
  run.events.filterMap fun event =>
    match event with
    | .delivered delivery => some delivery
    | _ => none

theorem Run.deliveries_queried (run : Run σ) (registered : RegisteredModel σ)
    (query : PhysicalQuery) :
    (run.queried registered query).deliveries = run.deliveries := by
  simp [deliveries, queried]

theorem Run.deliveries_fed (run : Run σ) (fed : Fed σ) :
    (run.fed fed).deliveries = run.deliveries ++ fed.deliveries := by
  rw [deliveries, Run.fed, List.filterMap_append, List.filterMap_map]
  exact congrArg (run.deliveries ++ ·) List.filterMap_some

namespace Registry

variable {registry : Registry σ} {registered : RegisteredModel σ} {place : Store.Place σ}

/-- A stream is over with what an iteratee was fed with: it ends as the feeding does, and what it
adds to the run is what was delivered. -/
def StreamsAs (attempt : Execution σ Unit) (run : Run σ) (fed : Fed σ) : Prop :=
  ∃ after, result attempt run = (fed.ending, after) ∧ after.environment = fed.environment ∧
    after.deliveries = run.deliveries ++ fed.deliveries

theorem streamsAs_pure (run : Run σ) :
    StreamsAs (pure () : Execution σ Unit) run (.idle run.environment) :=
  ⟨run, rfl, rfl, (List.append_nil _).symm⟩

/-- A step before that delivers nothing makes no difference. -/
theorem streamsAs_bind {α : Type} {first : Execution σ α} {next : α → Execution σ Unit} {value : α}
    {run between : Run σ} {fed : Fed σ} (done : result first run = (.ok value, between))
    (same : between.deliveries = run.deliveries) (rest : StreamsAs (next value) between fed) :
    StreamsAs (first >>= next) run fed := by
  obtain ⟨after, ended, environment, deliveries⟩ := rest
  exact ⟨after, (result_bind_of_ok done).trans ended, environment, same ▸ deliveries⟩

/-- A batch is delivered, and if the iteratee says so the stream goes on. -/
theorem streamsAs_deliver {iteratee : Iteratee σ} {batch : List Record} {run : Run σ}
    {next : Execution σ Unit}
    {later : σ → Fed σ}
    (rest : ∀ between, between = run.fed (iteratee.feedBatch batch run.environment) →
      StreamsAs next between (later between.environment)) :
    StreamsAs (iteratee.deliver batch >>= fun flow =>
      match flow with
      | .stop => pure ()
      | .proceed => next) run ((iteratee.feedBatch batch run.environment).andThen later) := by
  have delivered := iteratee.result_deliver batch run
  have deliveries := run.deliveries_fed (iteratee.feedBatch batch run.environment)
  match answered : (iteratee.feedBatch batch run.environment).answer with
  | .error failure =>
    rw [answered] at delivered
    rw [Fed.andThen_of_error answered]
    exact ⟨_, (result_bind_of_error delivered).trans (by rw [Fed.ending, answered]), rfl, deliveries⟩
  | .ok .stop =>
    rw [answered] at delivered
    rw [Fed.andThen_of_stop answered]
    exact ⟨_, (result_bind_of_ok delivered).trans (by rw [Fed.ending, answered, result_pure]), rfl,
      deliveries⟩
  | .ok .proceed =>
    rw [answered] at delivered
    rw [Fed.andThen_of_proceed answered]
    obtain ⟨after, ended, environment, later⟩ := rest _ rfl
    refine ⟨after, (result_bind_of_ok delivered).trans ended, environment, ?_⟩
    rw [later, deliveries, List.append_assoc]
    rfl

/-- A batch is read with one find, which changes nothing. -/
theorem result_fetchBatch (inStore : registered.adapter = place.adapter) {query : LogicalQuery σ}
    {physical : PhysicalQuery} (lowered : query.lower registered registry = .ok physical) {run : Run σ}
    {skip limit : Nat} {rows records : List Record}
    (read : (place.part run.environment).find registered.datastore (physical.page skip (some limit)) = .ok rows)
    (materialized : registry.materialize registered physical.joins query.options rows = .ok records) :
    result (registry.fetchBatch registered query skip limit) run =
      (.ok records, run.queried registered (physical.page skip (some limit))) := by
  unfold fetchBatch
  have isFind : (batchQuery query skip limit).method = .find := rfl
  have fetched : result (registry.fetch registered .stream (batchQuery query skip limit)) run =
      (.ok (.records records), run.queried registered (physical.page skip (some limit))) :=
    (fetch_find_eq_ok inStore isFind).mpr
      ⟨_, rows, records, lower_batchQuery lowered skip limit, read, materialized, rfl, rfl⟩
  rw [result_bind_of_ok fetched]
  rfl

/-- The loop of a stream feeds its iteratee with the records of the rows that remain. -/
theorem streamFrom_streamsAs (inStore : registered.adapter = place.adapter) {query : LogicalQuery σ}
    {physical : PhysicalQuery} (lowered : query.lower registered registry = .ok physical)
    {iteratee : Iteratee σ}
    (keeps : iteratee.Keeps place.part) {store : Store} {all : List Record}
    (pages : ∀ skip limit, store.find registered.datastore (physical.page skip limit) =
      .ok (takeUpTo limit (all.drop skip)))
    {batches skip : Nat} {remaining : Option Nat} {rest : List Record} {run : Run σ}
    (isStore : place.part run.environment = store)
    (materialized : registry.materialize registered physical.joins query.options
      (takeUpTo remaining (all.drop skip)) = .ok rest)
    (enough : ∀ batch, batchSize * batch < rest.length → batch < batches) :
    StreamsAs (registry.streamFrom registered query iteratee batches skip remaining) run
      (iteratee.feed rest run.environment) := by
  induction batches generalizing skip remaining rest run with
  | zero =>
    have none : rest = [] := by
      apply List.eq_nil_of_length_eq_zero
      exact Nat.eq_zero_of_not_pos fun some => Nat.not_lt_zero 0 (enough 0 some)
    rw [none, Iteratee.feed_nil]
    exact streamsAs_pure run
  | succ batches ih =>
    have length := length_of_mapM materialized
    have page := takeUpTo_batch remaining (all.drop skip)
    have next := takeUpTo_next remaining (all.drop skip)
    unfold streamFrom
    generalize (remaining.map (min batchSize)).getD batchSize = limit at page
    dsimp only
    -- a limit that is used up, and a batch that is empty, mean that no record remains
    by_cases usedUp : limit = 0
    · have noRows : takeUpTo remaining (all.drop skip) = [] := by
        rw [usedUp, takeUpTo, List.take_zero] at page
        exact (List.take_eq_nil_iff.mp page.symm).resolve_left (by decide)
      have none : rest = [] := by
        rw [noRows] at length
        exact List.eq_nil_of_length_eq_zero length
      rw [if_pos usedUp, none, Iteratee.feed_nil]
      exact streamsAs_pure run
    · have read := pages skip (some limit)
      rw [page, ← isStore] at read
      have fetched := result_fetchBatch inStore lowered read (mapM_take materialized batchSize)
      rw [if_neg usedUp]
      refine streamsAs_bind fetched (run.deliveries_queried registered _) ?_
      by_cases none : rest = []
      · rw [none, Iteratee.feed_nil]
        exact streamsAs_pure (run.queried registered _)
      · have some : (rest.take batchSize).isEmpty = false := by
          rw [List.isEmpty_eq_false_iff, ne_eq, List.take_eq_nil_iff, not_or]
          exact ⟨by decide, none⟩
        rw [some, if_neg Bool.false_ne_true, iteratee.feed_of_ne_nil none]
        refine streamsAs_deliver fun between isBetween => ih ?_ ?_ fun batch isBatch => ?_
        · rw [isBetween, ← isStore]
          exact Iteratee.feedBatch_keeps keeps (rest.take batchSize) run.environment
        · rw [List.length_take, length, ← List.length_take, ← List.drop_drop, next]
          exact mapM_drop materialized batchSize
        · rw [List.length_drop] at isBatch
          have earlier := enough (batch + 1) (by rw [Nat.mul_succ]; omega)
          omega

/-- A stream feeds its iteratee with the records that a find with the same criteria fetches, as long
as it does not touch the store and the skips of the batches are counts of 64 bits. -/
theorem stream_streamsAs (inStore : registered.adapter = place.adapter) {query : LogicalQuery σ}
    (find : query.method = .find) {origin : Method} {run answered : Run σ} {records : List Record}
    (fetched : result (registry.fetch registered origin query) run = (.ok (.records records), answered))
    {iteratee : Iteratee σ} (keeps : iteratee.Keeps place.part)
    (inRange : ∀ batch, batchSize * batch < records.length →
      query.criteria.skip + batchSize * batch < 2 ^ 64)
    {other : Run σ} (same : place.part other.environment = place.part run.environment) :
    StreamsAs (registry.stream registered { query with method := .stream, iteratee := some iteratee }) other
      (iteratee.feed records other.environment) := by
  obtain ⟨physical, rows, _, lowered, read, materialized, sameRecords, -⟩ :=
    (fetch_find_eq_ok inStore find).mp fetched
  obtain rfl := Outcome.records.inj sameRecords
  obtain ⟨all, rfl, pages⟩ := Store.find_page read
  have parts := LogicalQuery.lower_eq_ok.mp lowered
  obtain ⟨skip, limit⟩ := parts.page_eq
  rw [skip, limit] at materialized
  have streamLowered :
      LogicalQuery.lower { query with method := .stream, iteratee := some iteratee } registered
        registry = .ok { physical with method := .stream } :=
    LogicalQuery.lower_eq_ok.mpr ⟨rfl, parts.table_eq, parts.options_eq, parts.joins,
      parts.criteria, parts.values, parts.records, parts.numericColumn⟩
  refine streamFrom_streamsAs inStore streamLowered keeps pages same materialized fun batch isBatch => ?_
  have bound := inRange batch isBatch
  have limit : Nat.pow 2 64 = 2 ^ 64 := rfl
  rw [batchesFrom, limit]
  have count := (Nat.le_div_iff_mul_le (show 0 < batchSize by decide)).mpr
    (show batch * batchSize ≤ 2 ^ 64 - 1 - query.criteria.skip by rw [Nat.mul_comm]; omega)
  exact Nat.lt_succ_of_le count

theorem execute_streamTo {query : Description σ} (found : registry.model? query.model = some registered)
    (inStore : registered.adapter = place.adapter) (find : query.method = .find) {now : Instant}
    {run answered : Run σ} {records : List Record}
    (done : result (registry.execute now query) run = (.ok (.records records), answered))
    {iteratee : Iteratee σ}
    (keeps : iteratee.Keeps place.part)
    (inRange : ∀ batch, batchSize * batch < records.length →
      RawCriteria.skip query.criteria + batchSize * batch < 2 ^ 64)
    {other : Run σ} (same : place.part other.environment = place.part run.environment) (later : Instant) :
    ∃ after, result (registry.execute later (query.streamTo iteratee)) other =
        ((iteratee.feed records other.environment).ending.map fun _ => .nothing, after) ∧
      after.environment = (iteratee.feed records other.environment).environment ∧
      after.deliveries = other.deliveries ++ (iteratee.feed records other.environment).deliveries := by
  have foundStream : registry.model? (query.streamTo iteratee).model = some registered := by
    cases iteratee <;> exact found
  have isStream : (query.streamTo iteratee).method = .stream := by
    cases iteratee <;> rfl
  rcases execute_find_eq_ok find found done with ⟨details, noop, nothing⟩ | ⟨compiled, isCompiled, fetched⟩
  · obtain rfl := Outcome.records.inj nothing
    rw [execute_of_noop foundStream (Description.compile_streamTo_noop find noop iteratee),
      Iteratee.feed_nil, isStream]
    exact ⟨other, rfl, rfl, (List.append_nil _).symm⟩
  · obtain ⟨_, _, made⟩ := Description.compile_eq_ok.mp isCompiled
    have criteria := made.criteria
    rw [Description.compileCriteria, find] at criteria
    rw [← (Criteria.readFrom_of_read criteria).skip_eq] at inRange
    obtain ⟨after, ended, environment, deliveries⟩ :=
      stream_streamsAs inStore (made.method_eq.trans find) fetched keeps inRange same
    refine ⟨after, ?_, environment, deliveries⟩
    rw [execute_of_compile foundStream (Description.compile_streamTo find isCompiled iteratee),
      if_pos isStream,
      result_bind, ended]
    cases (iteratee.feed records other.environment).ending <;> rfl

/-- When a find succeeds, the stream of what it asks for to an iteratee that does not touch the
store delivers what the find answers with, as long as the skips of the batches are counts of 64
bits. The iteratee is fed with the records in order, one by one or in batches, up to the first of
which it stops or fails. A stop ends the stream as its end does, and a failure fails it. -/
theorem stream_delivers_found {query : Description σ}
    (found : registry.model? query.model = some registered) (inStore : registered.adapter = place.adapter)
    (find : query.method = .find)
    {now : Instant} {run answered : Run σ} {records : List Record}
    (done : result (registry.execute now query) run = (.ok (.records records), answered))
    {iteratee : Iteratee σ} (keeps : iteratee.Keeps place.part)
    (inRange : ∀ batch, batchSize * batch < records.length →
      RawCriteria.skip query.criteria + batchSize * batch < 2 ^ 64)
    {other : Run σ} (same : place.part other.environment = place.part run.environment) (later : Instant) :
    ∃ fed after, fed = iteratee.feed records other.environment ∧
      result (registry.execute later (query.streamTo iteratee)) other =
        (fed.ending.map fun _ => .nothing, after) ∧
      after.environment = fed.environment ∧ after.deliveries = other.deliveries ++ fed.deliveries ∧
      fed.deliveries <+: iteratee.deliveries records ∧
      (iteratee.Proceeds → fed.ending = .ok () ∧ fed.deliveries = iteratee.deliveries records) ∧
      Batched (batchesOf records) records := by
  have streams := execute_streamTo found inStore find done keeps inRange same later
  obtain ⟨after, ended, environment, deliveries⟩ := streams
  obtain ⟨isPrefix, whole⟩ := iteratee.feed_prefix records other.environment
  refine ⟨_, after, rfl, ended, environment, deliveries, isPrefix, fun proceeds => ?_,
    batched_batchesOf records⟩
  have answer := Iteratee.feed_proceeds proceeds records other.environment
  exact ⟨by rw [Fed.ending, answer], whole answer⟩

/-- A find of all users. -/
def findUsers : Description Store where
  method := .find
  model := "user"

/-- Goes through records up to the one that is named Bob. -/
def upToBob : Continuation Store Record :=
  fun record store => (.ok (if (Record.read record "name").same (.text "Bob") then .stop else .proceed), store)

/-- Thirty-five users, with their names under a field. The thirty-second one is Bob. -/
def crowd (field : String) : List Record :=
  (List.range 35).map fun before =>
    Dictionary.ofList [("id", .ofNat (before + 1)), (field, .text (if before = 31 then "Bob" else "Ada"))]

/-- A stream of thirty-five users up to the thirty-second delivers a whole batch of them and two of the next one. -/
theorem upToBob_delivered :
    ∃ (registry : Registry Store) (start finish run after : Run Store),
      result (build .usersAndPets [("memory", Store.Place.alone.adapter)] []) start = (.ok registry, finish) ∧
      run.environment.rows "default" "user" = .ok (crowd "full_name") ∧
      result (registry.execute ⟨0⟩ (findUsers.streamTo (.eachRecord upToBob))) run = (.ok .nothing, after) ∧
      after.deliveries = ((crowd "name").take 32).map .record := by
  let start : Run Store := { environment := { keys := { draw := toString } } }
  let built := result (build .usersAndPets [("memory", Store.Place.alone.adapter)] []) start
  let table : Table := { definition := { table := "user", primaryKey := "id" }, rows := crowd "full_name" }
  let run : Run Store := { environment := built.2.environment.put "default" "user" table }
  have finds {registry : Registry Store} (isBuilt : built.1 = .ok registry) :
      (result (registry.execute ⟨0⟩ findUsers) run).1 = .ok (.records (crowd "name")) := by
    obtain rfl := Except.ok.inj isBuilt
    cbv
  have inRange (batch : Nat) (isBatch : batchSize * batch < (crowd "name").length) :
      RawCriteria.skip findUsers.criteria + batchSize * batch < 2 ^ 64 := by
    have skip : RawCriteria.skip findUsers.criteria = 0 := rfl
    have length : (crowd "name").length = 35 := rfl
    omega
  obtain ⟨fed, after, isFed, ended, -, deliveries, -⟩ :=
    stream_delivers_found rfl (show _ = Store.Place.alone.adapter from rfl)
      (show findUsers.method = .find from rfl)
      (Prod.ext (finds rfl) rfl) (show Iteratee.Keeps _ (.eachRecord upToBob) from fun _ _ => rfl)
      inRange (Eq.refl _) ⟨0⟩
  refine ⟨_, start, _, run, after, rfl, rfl, ?_, ?_⟩
  · rw [ended, isFed]
    rfl
  · rw [deliveries, isFed]
    rfl

end Registry

end RecordMapper
