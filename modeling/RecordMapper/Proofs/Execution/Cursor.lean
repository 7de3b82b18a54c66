import Mathlib.Algebra.Group.Nat.Defs
import RecordMapper.Proofs.Execution.Feeding
import RecordMapper.Proofs.Execution.Replies
import RecordMapper.Proofs.Execution.Transforming

/-! # The cursor of a stream

A stream reads one batch after the other, and nothing is assumed of what its adapter and its iteratee
answer. `Delivered` says which batches it has read and delivered in full so far, and with which calls;
`Ends` says in which ways it may be over after these.
-/

namespace RecordMapper

open Attempt Results

variable {σ : Type}

/-- The query that an event put to an adapter. -/
def Event.query? : Event → Option PhysicalQuery
  | .queried _ _ query => some query
  | _ => none

/-- What an event handed to an iteratee. -/
def Event.delivery? : Event → Option Delivery
  | .delivered delivery => some delivery
  | _ => none

/-- How many records the batch after others may have: thirty, or what is left of the limit. -/
def PhysicalQuery.batchLimit (query : PhysicalQuery) (batches : List (List Record)) : Nat :=
  match query.criteria.limit with
  | some limit => min batchSize (limit - batches.flatten.length)
  | none => batchSize

/-- The query that reads the batch after others, for each of which it skips thirty records. -/
def PhysicalQuery.batchAfter (query : PhysicalQuery) (batches : List (List Record)) : PhysicalQuery :=
  query.page (query.criteria.skip + batchSize * batches.length) (some (query.batchLimit batches))

/-- Whether batches have left nothing of the limit. -/
def PhysicalQuery.UsedUp (query : PhysicalQuery) (batches : List (List Record)) : Prop :=
  ∃ limit, query.criteria.limit = some limit ∧ limit ≤ batches.flatten.length

/-- The one query among the calls for a batch. -/
theorem RegisteredModel.query_of_batch (registered : RegisteredModel σ) (query : PhysicalQuery)
    (deliveries : List Delivery) :
    (registered.asked query :: deliveries.map .delivered).filterMap Event.query? = [query] := by
  have none : (deliveries.map Event.delivered).filterMap Event.query? = [] := by
    rw [List.filterMap_map, List.filterMap_eq_nil_iff]
    exact fun _ _ => rfl
  exact congrArg (query :: ·) none

/-- The deliveries among the calls for a batch. -/
theorem RegisteredModel.deliveries_of_batch (registered : RegisteredModel σ) (query : PhysicalQuery)
    (deliveries : List Delivery) :
    (registered.asked query :: deliveries.map .delivered).filterMap Event.delivery? = deliveries := by
  have all : (deliveries.map Event.delivered).filterMap Event.delivery? = deliveries := by
    rw [List.filterMap_map]
    exact List.filterMap_some
  exact all

/-- All that there is to deliver of a batch. -/
def Iteratee.whole : Iteratee σ → List Record → List Delivery
  | .eachRecord _, batch => batch.map .record
  | .eachBatch _, batch => [.batch batch]

/-- An iteratee gets the beginning of a batch, and all of it if it lets the stream proceed. -/
theorem Iteratee.feedBatch_prefix (iteratee : Iteratee σ) (batch : List Record) (environment : σ) :
    (iteratee.feedBatch batch environment).deliveries <+: iteratee.whole batch ∧
      ((iteratee.feedBatch batch environment).answer = .ok .proceed →
        (iteratee.feedBatch batch environment).deliveries = iteratee.whole batch) := by
  cases iteratee with
  | eachRecord continuation => exact Continuation.feed_prefix batch environment
  | eachBatch continuation => exact ⟨List.prefix_refl _, fun _ => rfl⟩

namespace Registry

section

variable (registry : Registry σ) (registered : RegisteredModel σ) (physical : PhysicalQuery)
    (iteratee : Iteratee σ)

/-- A batch after others was read from the adapter, which left an environment behind. -/
def Reads (batches : List (List Record)) (environment : σ) (batch : List Record) (left : σ) : Prop :=
  ∃ payload,
    registered.answer? (physical.batchAfter batches) environment = some (.ok payload, left) ∧
    registry.reading registered (physical.batchAfter batches) payload = .ok (.records batch)

/-- Batches that a stream has read and delivered, with what it called for them. Each was read after the
iteratee had let the stream proceed with all of the one before. -/
inductive Delivered (start : σ) : List (List Record) → List Event → σ → Prop where
  | none : Delivered start [] [] start
  | next {batches : List (List Record)} {calls : List Event} {environment left : σ} {batch : List Record}
      (before : Delivered start batches calls environment)
      (notUsedUp : ¬physical.UsedUp batches)
      (reads : registry.Reads registered physical batches environment batch left)
      (notEmpty : batch ≠ [])
      (proceeds : (iteratee.feedBatch batch left).answer = .ok .proceed) :
      Delivered start (batches ++ [batch])
        (calls ++ registered.asked (physical.batchAfter batches) ::
          (iteratee.feedBatch batch left).deliveries.map .delivered)
        (iteratee.feedBatch batch left).environment

/-- How a stream ends after batches, and what it still calls before that. -/
inductive Ends (batches : List (List Record)) (environment : σ) :
    List Event → Except QueryError Unit → σ → Prop where
  /-- Nothing is left of the limit. -/
  | usedUp (none : physical.UsedUp batches) : Ends batches environment [] (.ok ()) environment
  /-- The next skip is no count of 64 bits. -/
  | outOfRange (far : 2 ^ 64 ≤ physical.criteria.skip + batchSize * batches.length) :
      Ends batches environment [] (.ok ()) environment
  /-- The adapter does not implement finds. -/
  | unsupported (notUsedUp : ¬physical.UsedUp batches)
      (unanswered : registered.answer? (physical.batchAfter batches) environment = none) :
      Ends batches environment [] (.error (.unsupported registered.identity .find)) environment
  /-- The adapter answers with an error. -/
  | refused {error : AdapterError} {charged : QueryError} {left : σ} (notUsedUp : ¬physical.UsedUp batches)
      (answered : registered.answer? (physical.batchAfter batches) environment = some (.error error, left))
      (code : charged.code = error.reportedCode) :
      Ends batches environment [registered.asked (physical.batchAfter batches)] (.error charged) left
  /-- The answer cannot be read. -/
  | unread {payload : Option Json} {error : QueryError} {left : σ} (notUsedUp : ¬physical.UsedUp batches)
      (answered : registered.answer? (physical.batchAfter batches) environment = some (.ok payload, left))
      (failed : registry.reading registered (physical.batchAfter batches) payload = .error error) :
      Ends batches environment [registered.asked (physical.batchAfter batches)] (.error error) left
  /-- An empty batch is the last. -/
  | empty {left : σ} (notUsedUp : ¬physical.UsedUp batches)
      (reads : registry.Reads registered physical batches environment [] left) :
      Ends batches environment [registered.asked (physical.batchAfter batches)] (.ok ()) left
  /-- The iteratee stops the stream or fails, with a part of the last batch. -/
  | broken {batch : List Record} {left : σ} (notUsedUp : ¬physical.UsedUp batches)
      (reads : registry.Reads registered physical batches environment batch left) (notEmpty : batch ≠ [])
      (broken : (iteratee.feedBatch batch left).answer ≠ .ok .proceed) :
      Ends batches environment
        (registered.asked (physical.batchAfter batches) ::
          (iteratee.feedBatch batch left).deliveries.map .delivered)
        (iteratee.feedBatch batch left).ending (iteratee.feedBatch batch left).environment

end

variable {registry : Registry σ} {registered : RegisteredModel σ} {physical : PhysicalQuery}
    {iteratee : Iteratee σ} {start environment finish : σ} {batches : List (List Record)}
    {calls last : List Event} {ended : Except QueryError Unit}

namespace Delivered

/-- No batch that was delivered is empty, and there is something left of the limit before each. -/
theorem length_le
    (delivered : Delivered registry registered physical iteratee start batches calls environment) :
    batches.length ≤ batches.flatten.length ∧
      ∀ limit, physical.criteria.limit = some limit → batches.length ≤ limit := by
  induction delivered with
  | none => exact ⟨Nat.le_refl 0, fun limit _ => Nat.zero_le limit⟩
  | @next batches calls environment left batch before notUsedUp reads notEmpty proceeds ih =>
    have some := List.length_pos_iff.mpr notEmpty
    constructor
    · rw [List.length_append, List.flatten_append, List.length_append, List.flatten_singleton]
      exact Nat.add_le_add ih.1 some
    · intro limit isLimit
      have more : ¬limit ≤ batches.flatten.length := fun less => notUsedUp ⟨limit, isLimit, less⟩
      rw [List.length_append, List.length_singleton]
      omega

/-- The queries for the batches are those of the cursor, in order. -/
theorem queries_eq
    (delivered : Delivered registry registered physical iteratee start batches calls environment) :
    calls.filterMap Event.query? =
      (List.range batches.length).map fun index => physical.batchAfter (batches.take index) := by
  induction delivered with
  | none => rfl
  | @next batches calls environment left batch before notUsedUp reads notEmpty proceeds ih =>
    have earlier : (List.range batches.length).map (fun index => physical.batchAfter (batches.take index)) =
        (List.range batches.length).map fun index =>
          physical.batchAfter ((batches ++ [batch]).take index) := by
      refine List.map_congr_left fun index member => ?_
      rw [List.take_append_of_le_length (Nat.le_of_lt (List.mem_range.mp member))]
    rw [List.filterMap_append, registered.query_of_batch, ih, earlier,
      List.length_append, List.length_singleton, List.range_succ, List.map_append, List.map_singleton,
      List.take_left]

/-- All of the batches was delivered, in order. -/
theorem deliveries_eq
    (delivered : Delivered registry registered physical iteratee start batches calls environment) :
    calls.filterMap Event.delivery? = batches.flatMap iteratee.whole := by
  induction delivered with
  | none => rfl
  | @next batches calls environment left batch before notUsedUp reads notEmpty proceeds ih =>
    rw [List.filterMap_append, registered.deliveries_of_batch, ih,
      (iteratee.feedBatch_prefix batch left).2 proceeds, List.flatMap_append, List.flatMap_singleton]

end Delivered

namespace Ends

/-- At most one query more is put to the adapter, and only if something is left of the limit. -/
theorem queries_eq (ends : Ends registry registered physical iteratee batches environment last ended finish) :
    last.filterMap Event.query? = [] ∨
      ¬physical.UsedUp batches ∧ last.filterMap Event.query? = [physical.batchAfter batches] := by
  cases ends with
  | usedUp | outOfRange | unsupported => exact .inl rfl
  | refused notUsedUp | unread notUsedUp | empty notUsedUp => exact .inr ⟨notUsedUp, rfl⟩
  | broken notUsedUp =>
    right
    rw [registered.query_of_batch]
    exact ⟨notUsedUp, rfl⟩

/-- What is still delivered is the beginning of one more batch that was read. -/
theorem deliveries_prefix
    (ends : Ends registry registered physical iteratee batches environment last ended finish) :
    last.filterMap Event.delivery? = [] ∨
      ∃ batch left, registry.Reads registered physical batches environment batch left ∧
        last.filterMap Event.delivery? <+: iteratee.whole batch := by
  cases ends with
  | usedUp | outOfRange | unsupported | refused | unread | empty => exact .inl rfl
  | @broken batch left notUsedUp reads notEmpty broken =>
    right
    refine ⟨batch, left, reads, ?_⟩
    rw [registered.deliveries_of_batch]
    exact (iteratee.feedBatch_prefix batch left).1

end Ends

/-! ## The loop -/

theorem batchLimit_eq (physical : PhysicalQuery) (batches : List (List Record)) :
    ((physical.criteria.limit.map (· - batches.flatten.length)).map (min batchSize)).getD batchSize =
      physical.batchLimit batches := by
  unfold PhysicalQuery.batchLimit
  cases physical.criteria.limit <;> rfl

theorem batchLimit_eq_zero_iff : physical.batchLimit batches = 0 ↔ physical.UsedUp batches := by
  unfold PhysicalQuery.UsedUp PhysicalQuery.batchLimit
  have size : batchSize = 30 := rfl
  cases physical.criteria.limit with
  | none => simp [size]
  | some limit =>
    simp only [Option.some.injEq, exists_eq_left', size]
    omega

section Fetching

variable {query : LogicalQuery σ} {run : Run σ} {skip limit : Nat}

theorem fetchBatch_of_none (lowered : query.lower registered registry = .ok physical)
    (unanswered : registered.answer? (physical.page skip (some limit)) run.environment = none) :
    result (registry.fetchBatch registered query skip limit) run =
      (.error (.unsupported registered.identity .find), run) :=
  result_bind_of_error (fetch_of_none (lower_batchQuery lowered skip limit) unanswered .stream)

theorem fetchBatch_of_error (lowered : query.lower registered registry = .ok physical)
    {error : AdapterError} {left : σ}
    (answered : registered.answer? (physical.page skip (some limit)) run.environment =
      some (.error error, left)) :
    ∃ charged after, result (registry.fetchBatch registered query skip limit) run = (.error charged, after) ∧
      charged.code = error.reportedCode ∧ after.environment = left ∧
      after.calls = run.calls ++ [registered.asked (physical.page skip (some limit))] := by
  obtain ⟨charged, warnings, fetched, code⟩ :=
    fetch_of_error (lower_batchQuery lowered skip limit) answered .stream
  refine ⟨charged, _, result_bind_of_error fetched, code, rfl, ?_⟩
  rw [Run.calls_advance, List.filter_cons_of_pos rfl, Event.filter_warned]

theorem fetchBatch_of_ok (lowered : query.lower registered registry = .ok physical)
    {payload : Option Json} {left : σ}
    (answered : registered.answer? (physical.page skip (some limit)) run.environment =
      some (.ok payload, left)) :
    (∃ error, registry.reading registered (physical.page skip (some limit)) payload = .error error ∧
      result (registry.fetchBatch registered query skip limit) run =
        (.error error, run.advance left [registered.asked (physical.page skip (some limit))])) ∨
    ∃ batch, registry.reading registered (physical.page skip (some limit)) payload = .ok (.records batch) ∧
      result (registry.fetchBatch registered query skip limit) run =
        (.ok batch, run.advance left [registered.asked (physical.page skip (some limit))]) := by
  have options := (LogicalQuery.lower_eq_ok.mp lowered).options_eq
  have fetched := fetch_of_ok (lower_batchQuery lowered skip limit) options answered .stream
  cases read : registry.reading registered (physical.page skip (some limit)) payload with
  | error error =>
    rw [read] at fetched
    exact .inl ⟨error, rfl, result_bind_of_error fetched⟩
  | ok outcome =>
    rw [read] at fetched
    have kind := kind_of_reading (by decide : Method.find ≠ .stream) read
    cases outcome with
    | records batch => exact .inr ⟨batch, rfl, result_bind_of_ok fetched⟩
    | nothing | count | number => cases kind

end Fetching

theorem calls_fed (run : Run σ) (fed : Fed σ) :
    (run.fed fed).calls = run.calls ++ fed.deliveries.map .delivered := by
  rw [Run.calls, Run.fed, List.filter_append]
  refine congrArg (run.calls ++ ·) (List.filter_eq_self.mpr fun event member => ?_)
  obtain ⟨delivery, -, rfl⟩ := List.mem_map.mp member
  rfl

section Loop

variable {query : LogicalQuery σ} {fuel : Nat} {run after : Run σ}

/-- The loop of a stream after batches. -/
def loopAfter (registry : Registry σ) (registered : RegisteredModel σ) (query : LogicalQuery σ)
    (iteratee : Iteratee σ) (physical : PhysicalQuery) (fuel : Nat) (batches : List (List Record)) :
    Execution σ Unit :=
  registry.streamFrom registered query iteratee fuel (physical.criteria.skip + batchSize * batches.length)
    (physical.criteria.limit.map (· - batches.flatten.length))

theorem loopAfter_append (batch : List Record) :
    loopAfter registry registered query iteratee physical fuel (batches ++ [batch]) =
      registry.streamFrom registered query iteratee fuel
        (physical.criteria.skip + batchSize * batches.length + batchSize)
        ((physical.criteria.limit.map (· - batches.flatten.length)).map (· - batch.length)) := by
  unfold loopAfter
  rw [List.length_append, List.length_singleton, Nat.mul_succ, Nat.add_assoc, Option.map_map,
    List.flatten_append, List.flatten_singleton, List.length_append]
  congr 2
  funext limit
  exact (Nat.sub_sub ..).symm

/-- A batch that was read is the last if it is empty or breaks the stream off, and otherwise the loop goes on
after it. -/
theorem loop_delivers (notUsedUp : ¬physical.UsedUp batches) {environment left : σ} {batch : List Record}
    (reads : registry.Reads registered physical batches environment batch left) {between : Run σ}
    (isLeft : between.environment = left)
    (called : between.calls = run.calls ++ [registered.asked (physical.batchAfter batches)])
    (streamed : result (if batch.isEmpty then pure () else iteratee.deliver batch >>= fun flow =>
      match flow with
      | .stop => pure ()
      | .proceed => loopAfter registry registered query iteratee physical fuel (batches ++ [batch])) between =
        (ended, after)) :
    (∃ last, Ends registry registered physical iteratee batches environment last ended after.environment ∧
      after.calls = run.calls ++ last) ∨
    batch ≠ [] ∧ (iteratee.feedBatch batch left).answer = .ok .proceed ∧
      result (loopAfter registry registered query iteratee physical fuel (batches ++ [batch]))
        (between.fed (iteratee.feedBatch batch left)) = (ended, after) := by
  have delivered := iteratee.result_deliver batch between
  have calls : (between.fed (iteratee.feedBatch batch left)).calls =
      run.calls ++ registered.asked (physical.batchAfter batches) ::
        (iteratee.feedBatch batch left).deliveries.map .delivered := by
    rw [calls_fed, called, List.append_assoc]
    rfl
  rw [isLeft] at delivered
  by_cases isEmpty : batch = []
  · rw [isEmpty] at streamed reads
    obtain ⟨rfl, rfl⟩ := Prod.mk.inj streamed
    exact .inl ⟨_, isLeft ▸ .empty notUsedUp reads, called⟩
  · rw [if_neg (by simpa using isEmpty)] at streamed
    have broken (notProceed : (iteratee.feedBatch batch left).answer ≠ .ok .proceed) :
        Ends registry registered physical iteratee batches environment _
          (iteratee.feedBatch batch left).ending _ := .broken notUsedUp reads isEmpty notProceed
    rcases answer : (iteratee.feedBatch batch left).answer with failure | flow
    · rw [answer] at delivered
      rw [result_bind_of_error delivered] at streamed
      obtain ⟨rfl, rfl⟩ := Prod.mk.inj streamed
      have ends := broken (by simp [answer])
      rw [Fed.ending, answer] at ends
      exact .inl ⟨_, ends, calls⟩
    · rw [answer] at delivered
      rw [result_bind_of_ok delivered] at streamed
      cases flow with
      | stop =>
        obtain ⟨rfl, rfl⟩ := Prod.mk.inj streamed
        have ends := broken (by simp [answer])
        rw [Fed.ending, answer] at ends
        exact .inl ⟨_, ends, calls⟩
      | proceed => exact .inr ⟨isEmpty, rfl, streamed⟩

/-- One round of the loop: the stream ends, or one more batch was delivered and the loop goes on. -/
theorem loop_step (lowered : query.lower registered registry = .ok physical)
    (streamed : result (loopAfter registry registered query iteratee physical (fuel + 1) batches) run =
      (ended, after)) :
    (∃ last, Ends registry registered physical iteratee batches run.environment last ended after.environment ∧
      after.calls = run.calls ++ last) ∨
    ∃ batch left between, ¬physical.UsedUp batches ∧
      registry.Reads registered physical batches run.environment batch left ∧ batch ≠ [] ∧
      (iteratee.feedBatch batch left).answer = .ok .proceed ∧
      between.environment = (iteratee.feedBatch batch left).environment ∧
      between.calls = run.calls ++ registered.asked (physical.batchAfter batches) ::
        (iteratee.feedBatch batch left).deliveries.map .delivered ∧
      result (loopAfter registry registered query iteratee physical fuel (batches ++ [batch])) between =
        (ended, after) := by
  unfold loopAfter streamFrom at streamed
  dsimp only at streamed
  rw [batchLimit_eq] at streamed
  by_cases usedUp : physical.UsedUp batches
  · rw [if_pos (batchLimit_eq_zero_iff.mpr usedUp)] at streamed
    obtain ⟨rfl, rfl⟩ := Prod.mk.inj streamed
    exact .inl ⟨[], .usedUp usedUp, (List.append_nil _).symm⟩
  · rw [if_neg (mt batchLimit_eq_zero_iff.mp usedUp)] at streamed
    rcases answered : registered.answer? (physical.batchAfter batches) run.environment with
      _ | ⟨error | payload, left⟩
    · rw [result_bind_of_error (fetchBatch_of_none lowered answered)] at streamed
      obtain ⟨rfl, rfl⟩ := Prod.mk.inj streamed
      exact .inl ⟨[], .unsupported usedUp answered, (List.append_nil _).symm⟩
    · obtain ⟨charged, failed, fetched, code, rfl, calls⟩ := fetchBatch_of_error lowered answered
      rw [result_bind_of_error fetched] at streamed
      obtain ⟨rfl, rfl⟩ := Prod.mk.inj streamed
      exact .inl ⟨_, .refused usedUp answered code, calls⟩
    · have called (asked : Run σ) (isAsked : asked = run.advance left
          [registered.asked (physical.batchAfter batches)]) :
          asked.calls = run.calls ++ [registered.asked (physical.batchAfter batches)] := by
        rw [isAsked, Run.calls_advance]
        rfl
      rcases fetchBatch_of_ok lowered answered with ⟨error, failed, fetched⟩ | ⟨batch, read, fetched⟩
      · rw [result_bind_of_error fetched] at streamed
        obtain ⟨rfl, rfl⟩ := Prod.mk.inj streamed
        exact .inl ⟨_, .unread usedUp answered failed, called _ rfl⟩
      · have reads : registry.Reads registered physical batches run.environment batch left :=
          ⟨payload, answered, read⟩
        rw [result_bind_of_ok fetched] at streamed
        simp only [← loopAfter_append] at streamed
        have delivers := loop_delivers usedUp reads rfl (called _ rfl) streamed
        rcases delivers with ended | ⟨notEmpty, proceeds, goesOn⟩
        · exact .inl ended
        · refine .inr ⟨batch, left, _, usedUp, reads, notEmpty, proceeds, rfl, ?_, goesOn⟩
          rw [calls_fed, called _ rfl, List.append_assoc]
          rfl

/-- The loop of a stream reads and delivers batches, and ends in one of the ways. -/
theorem loop_ends (lowered : query.lower registered registry = .ok physical) {earlier : List Event}
    (delivered : Delivered registry registered physical iteratee start batches calls run.environment)
    (called : run.calls = earlier ++ calls)
    (enough : fuel + batches.length = batchesFrom physical.criteria.skip)
    (streamed : result (loopAfter registry registered query iteratee physical fuel batches) run =
      (ended, after)) :
    ∃ batches calls environment last,
      Delivered registry registered physical iteratee start batches calls environment ∧
      Ends registry registered physical iteratee batches environment last ended after.environment ∧
      after.calls = earlier ++ calls ++ last := by
  induction fuel generalizing batches calls run with
  | zero =>
    obtain ⟨rfl, rfl⟩ := Prod.mk.inj streamed
    have far : 2 ^ 64 ≤ physical.criteria.skip + batchSize * batches.length := by
      have range : Nat.pow 2 64 = 2 ^ 64 := rfl
      have size : batchSize = 30 := rfl
      rw [batchesFrom, range, size] at enough
      rw [size]
      omega
    exact ⟨_, _, _, [], delivered, .outOfRange far, by rw [called, List.append_nil]⟩
  | succ fuel ih =>
    rcases loop_step lowered streamed with ⟨last, ends, later⟩ |
      ⟨batch, left, between, notUsedUp, reads, notEmpty, proceeds, environment, later, goesOn⟩
    · exact ⟨_, _, _, last, delivered, ends, by rw [later, called]⟩
    · have next := delivered.next notUsedUp reads notEmpty proceeds
      rw [← environment] at next
      refine ih next (by rw [later, called, List.append_assoc]) ?_ goesOn
      rw [List.length_append, List.length_singleton]
      omega

end Loop

/-- A stream reads and delivers batches from its skip on, and ends in one of the ways. -/
theorem stream_ends {query : LogicalQuery σ} (lowered : query.lower registered registry = .ok physical)
    (isIteratee : query.iteratee = some iteratee) {run after : Run σ}
    (streamed : result (registry.stream registered query) run = (ended, after)) :
    ∃ batches calls environment last,
      Delivered registry registered physical iteratee run.environment batches calls environment ∧
      Ends registry registered physical iteratee batches environment last ended after.environment ∧
      after.calls = run.calls ++ calls ++ last := by
  obtain ⟨skip, limit⟩ := (LogicalQuery.lower_eq_ok.mp lowered).page_eq
  have looped : result (loopAfter registry registered query iteratee physical
      (batchesFrom physical.criteria.skip) []) run = (ended, after) := by
    rw [← streamed, stream, isIteratee, loopAfter, skip, limit]
    simp
  exact loop_ends lowered .none (show run.calls = run.calls ++ [] from (List.append_nil _).symm) rfl looped

/-- The queries of a stream that is over are those of the cursor, and no more than its limit. -/
theorem queries_of_ends
    (delivered : Delivered registry registered physical iteratee start batches calls environment)
    (ends : Ends registry registered physical iteratee batches environment last ended finish) :
    ∃ count, (calls ++ last).filterMap Event.query? =
        (List.range count).map (fun index => physical.batchAfter (batches.take index)) ∧
      count ≤ batches.length + 1 ∧ ∀ limit, physical.criteria.limit = some limit → count ≤ limit := by
  obtain ⟨fewer, within⟩ := delivered.length_le
  rcases ends.queries_eq with none | ⟨notUsedUp, one⟩
  · refine ⟨batches.length, ?_, Nat.le_succ _, within⟩
    rw [List.filterMap_append, none, List.append_nil, delivered.queries_eq]
  · refine ⟨batches.length + 1, ?_, Nat.le_refl _, fun limit isLimit => ?_⟩
    · rw [List.filterMap_append, one, delivered.queries_eq, List.range_succ, List.map_append,
        List.map_singleton, List.take_length]
    · have more : ¬limit ≤ batches.flatten.length := fun less => notUsedUp ⟨limit, isLimit, less⟩
      omega

/-- The deliveries of a stream that is over are those of its batches in full, and perhaps the beginning of
one more. -/
theorem deliveries_of_ends
    (delivered : Delivered registry registered physical iteratee start batches calls environment)
    (ends : Ends registry registered physical iteratee batches environment last ended finish) :
    ∃ more, (calls ++ last).filterMap Event.delivery? = batches.flatMap iteratee.whole ++ more ∧
      (more = [] ∨ ∃ batch left, registry.Reads registered physical batches environment batch left ∧
        more <+: iteratee.whole batch) := by
  refine ⟨_, ?_, ends.deliveries_prefix⟩
  rw [List.filterMap_append, delivered.deliveries_eq]

/-- A delivery of a stream is of a batch that was read in an environment, after other batches. -/
structure OfBatch (registry : Registry σ) (registered : RegisteredModel σ) (physical : PhysicalQuery)
    (iteratee : Iteratee σ) (start : σ) (earlier : List (List Record)) (environment : σ) (batch : List Record)
    (delivery : Delivery) : Prop where
  delivered : ∃ events, Delivered registry registered physical iteratee start earlier events environment
  reads : ∃ left, registry.Reads registered physical earlier environment batch left
  whole : delivery ∈ iteratee.whole batch

/-- Every delivery is of a batch that was read. -/
theorem exists_ofBatch
    (delivered : Delivered registry registered physical iteratee start batches calls environment)
    (ends : Ends registry registered physical iteratee batches environment last ended finish) :
    ∀ delivery ∈ (calls ++ last).filterMap Event.delivery?, ∃ earlier environment batch,
      OfBatch registry registered physical iteratee start earlier environment batch delivery := by
  rw [List.filterMap_append]
  refine List.forall_mem_append.mpr ⟨?full, fun delivery member => ?more⟩
  case full =>
    clear ends
    induction delivered with
    | none => simp
    | @next batches calls environment left batch before notUsedUp reads notEmpty proceeds ih =>
      rw [List.filterMap_append, registered.deliveries_of_batch, (iteratee.feedBatch_prefix batch left).2 proceeds]
      exact List.forall_mem_append.mpr
        ⟨ih, fun delivery whole => ⟨batches, environment, batch, ⟨calls, before⟩, ⟨left, reads⟩, whole⟩⟩
  case more =>
    rcases ends.deliveries_prefix with none | ⟨batch, left, reads, beginning⟩
    · rw [none] at member
      cases member
    · exact ⟨batches, environment, batch, ⟨calls, delivered⟩, ⟨left, reads⟩, beginning.subset member⟩

/-- The iteratee of a stream is the one that it was described with. -/
theorem compileIteratee_stream {query : Description σ} (isStream : query.method = .stream)
    {compiled : Option (Iteratee σ)} (done : query.compileIteratee = .ok compiled) :
    ∃ iteratee, compiled = some iteratee ∧
      ((∃ continuation, query.eachRecord = some continuation ∧ iteratee = .eachRecord continuation) ∨
        ∃ continuation, query.eachBatch = some continuation ∧ iteratee = .eachBatch continuation) := by
  unfold Description.compileIteratee at done
  rw [isStream] at done
  generalize query.eachRecord = record, query.eachBatch = records at done ⊢
  rcases record with _ | each <;> rcases records with _ | batch
  · cases done
  · exact ⟨_, (Except.ok.inj done).symm, .inr ⟨batch, rfl, rfl⟩⟩
  · exact ⟨_, (Except.ok.inj done).symm, .inl ⟨each, rfl, rfl⟩⟩
  · cases done

/-- What the cursor of a compiled stream does, whatever its adapter and its iteratee answer. It reads
batches and delivers each of them in full before it reads the next, and when it is over nothing more is
called. The query for a batch skips thirty records for each batch before, and its limit is what the records
of these leave of the caller's, or thirty. A limit bounds how many queries there are. -/
theorem stream_over_anything {configuration : Configuration} {adapters : Dictionary (Adapter σ)}
    {hooks : Dictionary (Hooks σ)} {begin done : Run σ}
    (built : result (build configuration adapters hooks) begin = (.ok registry, done))
    {query : Description σ} (found : registry.model? query.model = some registered)
    (isStream : query.method = .stream) {now : Instant} {compiled : LogicalQuery σ}
    (isCompiled : query.compile registry now = .ok compiled) (run : Run σ) :
    ∃ iteratee physical batches calls environment last ended after,
      ((∃ continuation, query.eachRecord = some continuation ∧ iteratee = .eachRecord continuation) ∨
        ∃ continuation, query.eachBatch = some continuation ∧ iteratee = .eachBatch continuation) ∧
      compiled.lower registered registry = .ok physical ∧
      physical.criteria.skip = RawCriteria.skip query.criteria ∧
      physical.criteria.limit = RawCriteria.limit query.criteria ∧
      result (registry.execute now query) run = (ended.map fun _ => .nothing, after) ∧
      after.calls = run.calls ++ (calls ++ last) ∧
      Delivered registry registered physical iteratee run.environment batches calls environment ∧
      Ends registry registered physical iteratee batches environment last ended after.environment ∧
      (∃ count, (calls ++ last).filterMap Event.query? =
          (List.range count).map (fun index => physical.batchAfter (batches.take index)) ∧
        count ≤ batches.length + 1 ∧
        ∀ limit, RawCriteria.limit query.criteria = some limit → count ≤ limit) ∧
      ∃ more, (calls ++ last).filterMap Event.delivery? = batches.flatMap iteratee.whole ++ more ∧
        (more = [] ∨ ∃ batch left, registry.Reads registered physical batches environment batch left ∧
          more <+: iteratee.whole batch) := by
  have holds := built_of_build built
  obtain ⟨_, same, made⟩ := Description.compile_eq_ok.mp isCompiled
  obtain rfl := Option.some.inj (found.symm.trans same)
  obtain ⟨iteratee, isIteratee, given⟩ := compileIteratee_stream isStream made.iteratee
  obtain ⟨physical, lowered⟩ : ∃ physical, compiled.lower registered registry = .ok physical := by
    rw [LogicalQuery.exists_lower_iff holds found isCompiled, written_of_stream made.parts isStream]
    exact fun name member => by cases member
  have criteria := made.criteria
  rw [Description.compileCriteria, isStream] at criteria
  have parts := Criteria.readFrom_of_read criteria
  obtain ⟨skip, limit⟩ := (LogicalQuery.lower_eq_ok.mp lowered).page_eq
  rcases streamed : result (registry.stream registered compiled) run with ⟨ended, after⟩
  have executed : result (registry.execute now query) run = (ended.map fun _ => .nothing, after) := by
    rw [execute_of_compile found isCompiled, if_pos isStream, result_bind, streamed]
    cases ended <;> rfl
  obtain ⟨batches, calls, environment, last, delivered, ends, called⟩ := stream_ends lowered isIteratee streamed
  obtain ⟨count, queries, atMost, within⟩ := queries_of_ends delivered ends
  refine ⟨iteratee, physical, batches, calls, environment, last, ended, after, given, lowered,
    skip.trans parts.skip_eq, limit.trans parts.limit_eq, executed, ?_, delivered, ends,
    ⟨count, queries, atMost, ?_⟩, deliveries_of_ends delivered ends⟩
  · rw [called, List.append_assoc]
  · rw [limit, parts.limit_eq] at within
    exact within

/-- A stream of two users at most to an iteratee that never stops it. -/
def twoUsers : Description (Option Json) where
  method := .stream
  model := "user"
  criteria := some (.record [("limit", .ofNat 2)])
  eachRecord := some fun _ reply => (.ok .proceed, reply)

/-- Over an adapter that answers every find with the same row, a stream of two users asks it twice at
most. -/
theorem twoUsers_ends :
    ∃ (registry : Registry (Option Json)) (start finish after : Run (Option Json)) (calls : List Event),
      result (build .usersAndPets [("memory", echoing)] []) start = (.ok registry, finish) ∧
      finish.environment = some (.list [.record [("full_name", .text "Ada"), ("id", .ofNat 1)]]) ∧
      (result (registry.execute ⟨0⟩ twoUsers) finish).2 = after ∧
      after.calls = finish.calls ++ calls ∧ (calls.filterMap Event.query?).length ≤ 2 := by
  let row : Record := [("full_name", .text "Ada"), ("id", .ofNat 1)]
  let start : Run (Option Json) := { environment := some (.list [.record row]) }
  let built := result (build .usersAndPets [("memory", echoing)] []) start
  have streams {registry : Registry (Option Json)} (isBuilt : built.1 = .ok registry) :
      ∃ registered compiled, registry.model? twoUsers.model = some registered ∧
        twoUsers.compile registry ⟨0⟩ = .ok compiled := by
    obtain rfl := Except.ok.inj isBuilt
    exact ⟨_, _, rfl, rfl⟩
  obtain ⟨registered, compiled, found, isCompiled⟩ := streams rfl
  obtain ⟨iteratee, physical, batches, calls, environment, last, ended, after, -, -, -, -, executed, called,
    -, -, ⟨count, queries, -, within⟩, -⟩ :=
    stream_over_anything (show built = _ from rfl) found rfl isCompiled built.2
  refine ⟨_, start, _, after, calls ++ last, rfl, rfl, congrArg Prod.snd executed, called, ?_⟩
  rw [queries, List.length_map, List.length_range]
  exact within 2 rfl

end Registry

end RecordMapper
