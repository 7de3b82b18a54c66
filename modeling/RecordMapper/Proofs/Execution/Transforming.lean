import RecordMapper.Proofs.Execution.Events
import RecordMapper.Proofs.Execution.Fetching
import RecordMapper.Proofs.Execution.Operation
import RecordMapper.Proofs.Query.Paging
import RecordMapper.Store.Answering

/-! # Transform errors before any query

An operation whose query was compiled fails with a transform error before it asks its adapter
exactly when the query writes a plural association.
-/

namespace RecordMapper

open Attempt Results

variable {σ : Type}

namespace Registry

variable {registry : Registry σ} {registered : RegisteredModel σ} {query : LogicalQuery σ}

theorem asks_fetch {physical : PhysicalQuery}
    (lowered : query.lower registered registry = .ok physical) (origin : Method) (run : Run σ) :
    Asks (registry.fetch registered origin query) run := by
  unfold fetch Registry.lower
  rw [lowered]
  change Asks (registered.dispatch origin physical >>= _) run
  refine (registered.asks_dispatch origin physical run).bind fun outcome => ?_
  split
  · exact (extends_ofExcept _).bind fun records => extends_pure _
  · exact extends_pure _

/-- The part of a query after its hooks. -/
theorem perform_eq (registry : Registry σ) {run before : Run σ}
    (left : result (registered.callBefore query) run = (.ok query, before)) :
    ∃ next : Outcome → Execution σ Outcome, (∀ outcome, Extends (next outcome)) ∧
      result (registry.perform registered query) run =
        result (registry.fetch registered query.method query >>= next) before := by
  refine ⟨_, ?_, result_bind_of_ok left⟩
  intro outcome
  split
  · exact (registered.extends_callAfter _ _ _).bind fun records => extends_pure _
  · exact extends_pure _

/-- A stream whose query can be lowered asks for its first batch before it fails with a transform
error. -/
theorem stream_not_transform {physical : PhysicalQuery}
    (lowered : query.lower registered registry = .ok physical)
    {run after : Run σ} {model : String} {cause : TransformError}
    (failed : result (registry.stream registered query) run = (.error (.transform model cause), after)) :
    after.events ≠ run.events := by
  unfold stream at failed
  split at failed
  · cases failed
  · next iteratee _ =>
    unfold batchesFrom streamFrom at failed
    dsimp only at failed
    split at failed
    · cases failed
    · have asks := registry.asks_fetch (registry.lower_batchQuery lowered query.criteria.skip
        ((query.criteria.limit.map (min batchSize)).getD batchSize)) .stream run
      refine Asks.not_transform (Asks.bind (asks.bind fun outcome => extends_pure _) fun records => ?_) failed
      split
      · exact extends_pure ()
      · refine (iteratee.extends_deliver records).bind fun flow => ?_
        cases flow with
        | stop => exact extends_pure ()
        | proceed => exact registry.extends_streamFrom registered query iteratee _ _ _

/-- A stream writes nothing. -/
theorem written_of_stream {described : Description σ} (passed : described.checkParts = .ok ())
    (stream : described.method = .stream) (model : Model) : described.written model = [] := by
  obtain ⟨-, values, records, -⟩ := Description.checkParts_eq_ok.mp passed
  rw [stream] at values records
  have noValues : described.values = none := by simpa [Method.takesValues] using values
  have noRecords : described.records = none := by simpa [Method.takesRecords] using records
  rw [Description.written, noValues, noRecords]
  rfl

/-- What becomes of a described query that was compiled, after the hooks before it left it as it
is. -/
theorem execute_of_callBefore {described : Description σ} {now : Instant} {run before : Run σ}
    (found : registry.model? described.model = some registered)
    (compiled : described.compile registry now = .ok query)
    (left : result (registered.callBefore query) run = (.ok query, before)) :
    ∃ next : Outcome → Execution σ Outcome, (∀ outcome, Extends (next outcome)) ∧
      result (registry.execute now described) run =
        if query.method = .stream then
          result (registry.stream registered query >>= fun _ => pure .nothing) before
        else result (registry.fetch registered query.method query >>= next) before := by
  obtain ⟨next, extends_next, performed⟩ := perform_eq registry left
  refine ⟨next, extends_next, ?_⟩
  obtain ⟨_, _, made⟩ := Description.compile_eq_ok.mp compiled
  rw [execute_of_compile found compiled, made.method_eq]
  split
  · next stream =>
    have same : before = run := by
      unfold RegisteredModel.callBefore at left
      rw [made.method_eq, stream] at left
      exact (Prod.mk.inj left).2.symm
    rw [same]
  · rw [performed, made.method_eq]

/-- Of a query of a registry that was compiled, lowering fails exactly when the query writes a
plural association: the values or records that it was given name one, or an update stamps one. When
the hooks before it leave the query as it is, its execution fails with a transform error before it
asks the adapter exactly then. -/
theorem transform_error_iff_plural_written {configuration : Configuration}
    {adapters : Dictionary (Adapter σ)} {hooks : Dictionary (Hooks σ)} {start finish : Run σ}
    (built : result (build configuration adapters hooks) start = (.ok registry, finish))
    {described : Description σ} {now : Instant}
    (found : registry.model? described.model = some registered)
    (compiled : described.compile registry now = .ok query) :
    ((∃ cause, query.lower registered registry = .error cause) ↔
      ∃ name ∈ described.written registered.model, registered.model.Plural name) ∧
    ∀ run before, result (registered.callBefore query) run = (.ok query, before) →
      ((∃ cause after, result (registry.execute now described) run =
          (.error (.transform registered.identity cause), after) ∧ after.events = before.events) ↔
        ∃ name ∈ described.written registered.model, registered.model.Plural name) := by
  have holds := built_of_build built
  obtain ⟨_, same, made⟩ := Description.compile_eq_ok.mp compiled
  obtain rfl := Option.some.inj (found.symm.trans same)
  obtain ⟨declares, -⟩ := made.written_stores (holds.valid_of_model? found).primaryKey_mem
  have lowers := LogicalQuery.exists_lower_iff holds found compiled
  rw [declares.stores_iff] at lowers
  have fails : (∃ cause, query.lower registered registry = .error cause) ↔
      ∃ name ∈ described.written registered.model, registered.model.Plural name := by
    rw [← Classical.not_not
        (a := ∃ name ∈ described.written registered.model, registered.model.Plural name),
      ← lowers]
    cases query.lower registered registry <;> simp
  refine ⟨fails, fun run before left => ?_⟩
  obtain ⟨next, extends_next, executed⟩ := execute_of_callBefore found compiled left
  rw [executed]
  constructor
  · rintro ⟨cause, after, failed, sameEvents⟩
    apply fails.mp
    cases lowered : query.lower registered registry with
    | error cause => exact ⟨cause, rfl⟩
    | ok physical =>
      exfalso
      split at failed
      · rw [result_bind] at failed
        split at failed
        · cases failed
        · next streamed =>
          obtain ⟨sameError, rfl⟩ := Prod.mk.inj failed
          obtain rfl := Except.error.inj sameError
          exact stream_not_transform lowered streamed sameEvents
      · exact ((registry.asks_fetch lowered _ before).bind extends_next).not_transform failed sameEvents
  · intro plural
    obtain ⟨cause, failed⟩ := fails.mpr plural
    have notStream : query.method ≠ .stream := by
      intro stream
      obtain ⟨name, member, -⟩ := plural
      rw [written_of_stream made.parts (made.method_eq ▸ stream)] at member
      cases member
    rw [if_neg notStream]
    exact ⟨cause, before, result_bind_of_error (fetch_of_lower_error failed _ before), rfl⟩

/-- An update that takes the pets of every user away. -/
def clearPets : Description Store where
  method := .update
  model := "user"
  criteria := some (.record [])
  values := some (.record [("pets", .null)])

/-- A null for the pets of users passes every check, and then there is no column for it: the update
is compiled, is not lowered, and fails with a transform error that no query went before. -/
theorem clearPets_fails :
    ∃ (registry : Registry Store) (start finish : Run Store) (registered : RegisteredModel Store)
      (query : LogicalQuery Store),
      result (build .usersAndPets [("memory", Store.adapter)] []) start = (.ok registry, finish) ∧
      registry.model? clearPets.model = some registered ∧ clearPets.compile registry ⟨0⟩ = .ok query ∧
      result (registered.callBefore query) finish = (.ok query, finish) ∧
      (∃ cause, query.lower registered registry = .error cause) ∧
      ∃ cause after, result (registry.execute ⟨0⟩ clearPets) finish =
        (.error (.transform registered.identity cause), after) ∧ after.events = finish.events := by
  let start : Run Store := { environment := { keys := { draw := toString } } }
  let built := result (build .usersAndPets [("memory", Store.adapter)] []) start
  refine ⟨_, start, _, _, _, rfl, rfl, rfl, rfl, ?_, ?_⟩
  · refine Iff.mpr (And.left (transform_error_iff_plural_written (show built = _ from rfl) rfl
      (show clearPets.compile _ ⟨0⟩ = _ from rfl))) ?_
    exact ⟨"pets", by decide, by decide, by decide⟩
  · refine Iff.mpr (And.right (transform_error_iff_plural_written (show built = _ from rfl) rfl
      (show clearPets.compile _ ⟨0⟩ = _ from rfl)) _ _ rfl) ?_
    exact ⟨"pets", by decide, by decide, by decide⟩

end Registry

end RecordMapper
