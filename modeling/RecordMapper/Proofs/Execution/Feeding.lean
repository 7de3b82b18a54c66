import RecordMapper.Execution.Streaming
import RecordMapper.Proofs.Execution.Run

/-! # Feeding an iteratee

`Iteratee.feed` is what a list of records makes of an iteratee that is fed with it at once: it gets
one part of the list after the other, until it stops or fails or nothing is left. The parts are the
records themselves, or batches of thirty of them and a last one of what remains.
-/

namespace RecordMapper

open Attempt

variable {σ α : Type}

/-- What has been delivered, what the iteratee answered last, and the environment after it. -/
structure Fed (σ : Type) where
  deliveries : List Delivery
  answer : Except IterateeFailure Flow
  environment : σ

namespace Fed

/-- Nothing was delivered. -/
def idle (environment : σ) : Fed σ :=
  { deliveries := [], answer := .ok .proceed, environment }

/-- The same after earlier deliveries. -/
def preceded (fed : Fed σ) (earlier : List Delivery) : Fed σ :=
  { fed with deliveries := earlier ++ fed.deliveries }

/-- A delivery goes on with the next one if the iteratee says so. -/
def andThen (fed : Fed σ) (next : σ → Fed σ) : Fed σ :=
  match fed.answer with
  | .ok .proceed => (next fed.environment).preceded fed.deliveries
  | _ => fed

/-- A stop ends a stream as its end does, and a failure fails it. -/
def ending (fed : Fed σ) : Except QueryError Unit :=
  match fed.answer with
  | .ok _ => .ok ()
  | .error failure => .error (.iteratee failure)

theorem andThen_of_proceed {fed : Fed σ} (proceed : fed.answer = .ok .proceed) (next : σ → Fed σ) :
    fed.andThen next = (next fed.environment).preceded fed.deliveries := by
  rw [andThen, proceed]

theorem andThen_of_stop {fed : Fed σ} (stop : fed.answer = .ok .stop) (next : σ → Fed σ) :
    fed.andThen next = fed := by
  rw [andThen, stop]

theorem andThen_of_error {fed : Fed σ} {failure : IterateeFailure}
    (failed : fed.answer = .error failure) (next : σ → Fed σ) : fed.andThen next = fed := by
  rw [andThen, failed]

theorem idle_andThen (environment : σ) (next : σ → Fed σ) :
    (idle environment).andThen next = next environment :=
  rfl

theorem preceded_andThen (fed : Fed σ) (earlier : List Delivery) (next : σ → Fed σ) :
    (fed.preceded earlier).andThen next = (fed.andThen next).preceded earlier := by
  have same : (fed.preceded earlier).answer = fed.answer := rfl
  match answered : fed.answer with
  | .error failure => rw [andThen_of_error (same.trans answered), andThen_of_error answered]
  | .ok .stop => rw [andThen_of_stop (same.trans answered), andThen_of_stop answered]
  | .ok .proceed =>
    rw [andThen_of_proceed (same.trans answered), andThen_of_proceed answered]
    exact congrArg (Fed.mk · _ _) (List.append_assoc ..)

theorem andThen_assoc (fed : Fed σ) (next last : σ → Fed σ) :
    (fed.andThen next).andThen last = fed.andThen fun environment => (next environment).andThen last := by
  match answered : fed.answer with
  | .error failure => rw [andThen_of_error answered, andThen_of_error answered, andThen_of_error answered]
  | .ok .stop => rw [andThen_of_stop answered, andThen_of_stop answered, andThen_of_stop answered]
  | .ok .proceed => rw [andThen_of_proceed answered, andThen_of_proceed answered, preceded_andThen]

end Fed

/-- The batches of a list. -/
def batchesOf (items : List α) : List (List α) :=
  (List.range ((items.length + (batchSize - 1)) / batchSize)).map fun index =>
    (items.drop (batchSize * index)).take batchSize

theorem batchesOf_nil : batchesOf ([] : List α) = [] := by
  simp [batchesOf, batchSize]

theorem batchesOf_of_ne_nil {items : List α} (some : items ≠ []) :
    batchesOf items = items.take batchSize :: batchesOf (items.drop batchSize) := by
  have positive := List.length_pos_iff.mpr some
  have count : (items.length + (batchSize - 1)) / batchSize =
      ((items.drop batchSize).length + (batchSize - 1)) / batchSize + 1 := by
    rw [List.length_drop, batchSize]
    omega
  rw [batchesOf, batchesOf, count, List.range_succ_eq_map, List.map_cons, List.map_map]
  refine congrArg (List.take batchSize items :: ·) (List.map_congr_left fun index _ => ?_)
  rw [Function.comp_apply, List.drop_drop, Nat.succ_eq_add_one, Nat.mul_add, Nat.mul_one, Nat.add_comm]

/-- What holds of an empty list, and of a list when it holds of what remains after the first batch,
holds of every list. -/
theorem batch_induction {motive : List α → Prop} (nil : motive [])
    (batch : ∀ items, items ≠ [] → motive (items.drop batchSize) → motive items) (items : List α) :
    motive items := by
  by_cases none : items = []
  · exact none ▸ nil
  · exact batch items none (batch_induction nil batch (items.drop batchSize))
termination_by items.length
decreasing_by
  have positive := List.length_pos_iff.mpr none
  rw [List.length_drop, batchSize]
  omega

/-- A division of a list into batches: all of them are full except possibly the last, and none is
empty. -/
structure Batched (batches : List (List α)) (items : List α) : Prop where
  flatten_eq : batches.flatten = items
  length_eq : batches.length = (items.length + (batchSize - 1)) / batchSize
  nonempty : ∀ batch ∈ batches, batch ≠ []
  full : ∀ batch ∈ batches.dropLast, batch.length = batchSize

theorem batched_batchesOf (items : List α) : Batched (batchesOf items) items := by
  have count : (batchesOf items).length = (items.length + (batchSize - 1)) / batchSize := by
    rw [batchesOf, List.length_map, List.length_range]
  suffices parts : (batchesOf items).flatten = items ∧ (∀ batch ∈ batchesOf items, batch ≠ []) ∧
      ∀ batch ∈ (batchesOf items).dropLast, batch.length = batchSize by
    exact ⟨parts.1, count, parts.2.1, parts.2.2⟩
  clear count
  induction items using batch_induction with
  | nil => simp [batchesOf_nil]
  | batch items some ih =>
    obtain ⟨flatten, nonempty, full⟩ := ih
    rw [batchesOf_of_ne_nil some]
    refine ⟨?_, ?_, ?_⟩
    · rw [List.flatten_cons, flatten, List.take_append_drop]
    · intro batch member
      rcases List.mem_cons.mp member with rfl | later
      · simp [some, batchSize]
      · exact nonempty batch later
    · by_cases last : items.drop batchSize = []
      · simp [last, batchesOf_nil]
      · have more : batchesOf (items.drop batchSize) ≠ [] := by
          rw [batchesOf_of_ne_nil last]
          exact List.cons_ne_nil _ _
        intro batch member
        rw [List.dropLast_cons_of_ne_nil more] at member
        rcases List.mem_cons.mp member with rfl | later
        · have positive := List.length_pos_iff.mpr last
          rw [List.length_drop] at positive
          rw [List.length_take]
          omega
        · exact full batch later

namespace Continuation

/-- One call. -/
def once (delivery : α → Delivery) (continuation : Continuation σ α) (item : α) (environment : σ) :
    Fed σ :=
  { deliveries := [delivery item]
    answer := (continuation item environment).1
    environment := (continuation item environment).2 }

/-- One call after the other, up to the first that does not answer that the stream is to proceed. -/
def feed (delivery : α → Delivery) (continuation : Continuation σ α) : List α → σ → Fed σ
  | [], environment => .idle environment
  | item :: rest, environment => (once delivery continuation item environment).andThen (feed delivery continuation rest)

variable {delivery : α → Delivery} {continuation : Continuation σ α}

theorem feed_append (items others : List α) (environment : σ) :
    feed delivery continuation (items ++ others) environment =
      (feed delivery continuation items environment).andThen (feed delivery continuation others) := by
  induction items generalizing environment with
  | nil => exact (Fed.idle_andThen environment _).symm
  | cons item rest ih =>
    rw [List.cons_append, feed, feed, Fed.andThen_assoc]
    exact congrArg _ (funext ih)

/-- What is delivered comes first in the list, and all of it is delivered if nothing ends the
stream. -/
theorem feed_prefix (items : List α) (environment : σ) :
    (feed delivery continuation items environment).deliveries <+: items.map delivery ∧
      ((feed delivery continuation items environment).answer = .ok .proceed →
        (feed delivery continuation items environment).deliveries = items.map delivery) := by
  induction items generalizing environment with
  | nil => exact ⟨List.prefix_refl _, fun _ => rfl⟩
  | cons item rest ih =>
    obtain ⟨isPrefix, whole⟩ := ih (once delivery continuation item environment).environment
    rw [feed, List.map_cons]
    match answered : (once delivery continuation item environment).answer with
    | .error failure =>
      rw [Fed.andThen_of_error answered, answered]
      exact ⟨List.prefix_append [delivery item] _, by simp⟩
    | .ok .stop =>
      rw [Fed.andThen_of_stop answered, answered]
      exact ⟨List.prefix_append [delivery item] _, by simp⟩
    | .ok .proceed =>
      rw [Fed.andThen_of_proceed answered]
      exact ⟨List.prefix_append_right_inj [delivery item] |>.mpr isPrefix,
        fun proceed => congrArg (delivery item :: ·) (whole proceed)⟩

/-- A continuation that always lets the stream proceed is called with everything. -/
theorem feed_proceeds
    (proceeds : ∀ item environment, (continuation item environment).1 = .ok .proceed)
    (items : List α) (environment : σ) :
    (feed delivery continuation items environment).answer = .ok .proceed := by
  induction items generalizing environment with
  | nil => rfl
  | cons item rest ih =>
    have here : (once delivery continuation item environment).answer = .ok .proceed :=
      proceeds item environment
    rw [feed, Fed.andThen_of_proceed here]
    exact ih _

theorem feed_keeps {τ : Type} {part : σ → τ} (keeps : ∀ item environment,
    part (continuation item environment).2 = part environment) (items : List α) (environment : σ) :
    part (feed delivery continuation items environment).environment = part environment := by
  induction items generalizing environment with
  | nil => rfl
  | cons item rest ih =>
    have here : part (once delivery continuation item environment).environment = part environment :=
      keeps item environment
    rw [feed]
    match answered : (once delivery continuation item environment).answer with
    | .error failure => rw [Fed.andThen_of_error answered, here]
    | .ok .stop => rw [Fed.andThen_of_stop answered, here]
    | .ok .proceed =>
      rw [Fed.andThen_of_proceed answered]
      exact (ih _).trans here

end Continuation

namespace Iteratee

/-- What becomes of an iteratee that is fed with records. -/
def feed : Iteratee σ → List Record → σ → Fed σ
  | .eachRecord continuation, records => Continuation.feed .record continuation records
  | .eachBatch continuation, records => Continuation.feed .batch continuation (batchesOf records)

/-- What becomes of an iteratee that is fed with records that are one batch. -/
def feedBatch : Iteratee σ → List Record → σ → Fed σ
  | .eachRecord continuation, records => Continuation.feed .record continuation records
  | .eachBatch continuation, records => Continuation.once .batch continuation records

/-- Everything that there is to deliver of records. -/
def deliveries : Iteratee σ → List Record → List Delivery
  | .eachRecord _, records => records.map .record
  | .eachBatch _, records => (batchesOf records).map .batch

/-- The iteratee leaves a part of the environment alone. -/
def Keeps {τ : Type} (part : σ → τ) : Iteratee σ → Prop
  | .eachRecord continuation =>
    ∀ record environment, part (continuation record environment).2 = part environment
  | .eachBatch continuation =>
    ∀ records environment, part (continuation records environment).2 = part environment

/-- The iteratee always lets the stream proceed. -/
def Proceeds : Iteratee σ → Prop
  | .eachRecord continuation => ∀ record environment, (continuation record environment).1 = .ok .proceed
  | .eachBatch continuation => ∀ records environment, (continuation records environment).1 = .ok .proceed

theorem feed_nil (iteratee : Iteratee σ) (environment : σ) :
    iteratee.feed [] environment = .idle environment := by
  cases iteratee <;> rfl

/-- Records are fed batch by batch. -/
theorem feed_of_ne_nil (iteratee : Iteratee σ) {records : List Record} (some : records ≠ [])
    (environment : σ) :
    iteratee.feed records environment =
      (iteratee.feedBatch (records.take batchSize) environment).andThen
        (iteratee.feed (records.drop batchSize)) := by
  cases iteratee with
  | eachRecord continuation =>
    rw [feed, feedBatch, feed]
    rw [← Continuation.feed_append, List.take_append_drop]
  | eachBatch continuation =>
    rw [feed, feedBatch, feed, batchesOf_of_ne_nil some, Continuation.feed]

theorem feed_prefix (iteratee : Iteratee σ) (records : List Record) (environment : σ) :
    (iteratee.feed records environment).deliveries <+: iteratee.deliveries records ∧
      ((iteratee.feed records environment).answer = .ok .proceed →
        (iteratee.feed records environment).deliveries = iteratee.deliveries records) := by
  cases iteratee with
  | eachRecord continuation => exact Continuation.feed_prefix records environment
  | eachBatch continuation => exact Continuation.feed_prefix (batchesOf records) environment

theorem feed_proceeds {iteratee : Iteratee σ} (proceeds : iteratee.Proceeds) (records : List Record)
    (environment : σ) : (iteratee.feed records environment).answer = .ok .proceed := by
  cases iteratee with
  | eachRecord continuation => exact Continuation.feed_proceeds proceeds records environment
  | eachBatch continuation => exact Continuation.feed_proceeds proceeds (batchesOf records) environment

theorem feedBatch_keeps {τ : Type} {part : σ → τ} {iteratee : Iteratee σ}
    (keeps : iteratee.Keeps part) (records : List Record) (environment : σ) :
    part (iteratee.feedBatch records environment).environment = part environment := by
  cases iteratee with
  | eachRecord continuation => exact Continuation.feed_keeps keeps records environment
  | eachBatch continuation => exact keeps records environment

end Iteratee

/-- The run after what an iteratee was fed with. -/
def Run.fed (run : Run σ) (fed : Fed σ) : Run σ :=
  { environment := fed.environment, events := run.events ++ fed.deliveries.map .delivered }

namespace Iteratee

theorem result_call (delivery : α → Delivery) (continuation : Continuation σ α) (item : α)
    (run : Run σ) :
    result (call (delivery item) continuation item) run =
      ((Continuation.once delivery continuation item run.environment).answer.mapError .iteratee,
        run.fed (Continuation.once delivery continuation item run.environment)) := by
  unfold call
  rw [result_bind_of_ok (Attempt.result_call _ _ _)]
  unfold Continuation.once Run.fed
  dsimp only
  cases (continuation item run.environment).1 with
  | error failure => rfl
  | ok flow => rfl

theorem result_deliverEach (continuation : Continuation σ Record) (records : List Record)
    (run : Run σ) :
    result (deliverEach continuation records) run =
      ((Continuation.feed .record continuation records run.environment).answer.mapError .iteratee,
        run.fed (Continuation.feed .record continuation records run.environment)) := by
  induction records generalizing run with
  | nil => simp [deliverEach, Continuation.feed, Fed.idle, Except.mapError, Run.fed]
  | cons record rest ih =>
    have called := result_call .record continuation record run
    rw [deliverEach, Continuation.feed, result_bind, called]
    match answered : (Continuation.once .record continuation record run.environment).answer with
    | .error failure =>
      rw [Fed.andThen_of_error answered, answered]
      rfl
    | .ok .stop =>
      rw [Fed.andThen_of_stop answered, answered]
      rfl
    | .ok .proceed =>
      rw [Fed.andThen_of_proceed answered]
      refine (ih _).trans ?_
      simp [Run.fed, Fed.preceded]

/-- One batch is delivered as it is fed. -/
theorem result_deliver (iteratee : Iteratee σ) (records : List Record) (run : Run σ) :
    result (iteratee.deliver records) run =
      ((iteratee.feedBatch records run.environment).answer.mapError .iteratee,
        run.fed (iteratee.feedBatch records run.environment)) := by
  cases iteratee with
  | eachRecord continuation => exact result_deliverEach continuation records run
  | eachBatch continuation => exact result_call .batch continuation records run

end Iteratee

end RecordMapper
