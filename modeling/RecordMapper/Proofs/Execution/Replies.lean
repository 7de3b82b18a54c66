import RecordMapper.Proofs.Execution.Course
import RecordMapper.Proofs.Execution.Outcomes

/-! # Operations over adapters that answer anything

Nothing is assumed of what an adapter answers, but an operation that succeeds has an outcome of the kind
that its method and options ask for. A reply that does not stand for such an outcome is a breach of the
contract, and so is an error that is none.
-/

namespace RecordMapper

open Attempt Results

variable {σ : Type}

namespace RegisteredModel

variable {registered : RegisteredModel σ} {query : PhysicalQuery} {run : Run σ} {reply : Option Json}

/-- Only an error that is none makes an adapter's error a breach of the contract. -/
theorem reportedCode_eq_contract_iff {error : AdapterError} :
    error.reportedCode = "E_ADAPTER_CONTRACT" ↔ ∃ value, error = .malformed value := by
  cases error with
  | malformed value => simp [AdapterError.reportedCode]
  | failure message footprint =>
    unfold AdapterError.reportedCode
    dsimp only
    split <;> simp

/-- A mutation that does not fetch ends well whatever it is answered with. What it did not ask for is
noted. -/
theorem dispatch_of_unfetched (mutation : query.method.isMutation = true)
    (unfetched : query.options.fetch = false) {left : σ}
    (answered : registered.answer? query run.environment = some (.ok reply, left)) (origin : Method) :
    result (registered.dispatch origin query) run = (.ok .nothing, run.advance left
      (registered.asked query :: if Outcome.isUnrequested reply then
        [.warned (.unrequestedRows registered.identity registered.adapter.identity query.method)]
      else [])) := by
  have nothing : Outcome.ofReply query.method query.options reply = .ok .nothing := by
    cases method : query.method <;> simp [Outcome.ofReply, unfetched, Method.isMutation, method] at mutation ⊢
  rw [dispatch_of_ok answered, nothing, unrequested, mutation, unfetched]
  cases Outcome.isUnrequested reply <;> rfl

/-- Every other query is answered without a warning. -/
theorem dispatch_of_fetched (wanted : query.method.isMutation = true → query.options.fetch = true)
    {left : σ} (answered : registered.answer? query run.environment = some (.ok reply, left))
    (origin : Method) :
    result (registered.dispatch origin query) run =
      ((Outcome.ofReply query.method query.options reply).mapError
        (.contract registered.identity registered.datastore query.method),
        run.advance left [registered.asked query]) := by
  rw [dispatch_of_ok answered, unrequested]
  cases mutation : query.method.isMutation with
  | true => simp [wanted mutation]
  | false => simp

end RegisteredModel

namespace Registry

variable {registry : Registry σ} {registered : RegisteredModel σ} {query : PhysicalQuery}
    {reply : Option Json} {outcome : Outcome}

/-- What a reply comes to is of the kind that was asked for. -/
theorem kind_of_reading (notStream : query.method ≠ .stream)
    (read : registry.reading registered query reply = .ok outcome) :
    outcome.kind = Outcome.kindOf query.method query.options := by
  unfold reading at read
  split at read
  · cases read
  · next rows held =>
    obtain ⟨records, -, rfl⟩ := map_eq_ok.mp read
    rw [← Outcome.kind_of_ofReply notStream held]
    rfl
  · next value _ held =>
    obtain rfl := Except.ok.inj read
    exact Outcome.kind_of_ofReply notStream held

/-- What a reply to a create that fetches comes to is one record. -/
theorem reading_create (create : query.method = .create) (fetch : query.options.fetch = true)
    (read : registry.reading registered query reply = .ok outcome) :
    ∃ record, outcome = .records [record] := by
  unfold reading at read
  rw [create] at read
  split at read
  · cases read
  · next rows held =>
    obtain ⟨row, -, same⟩ := (Outcome.ofReply_create fetch).mp held
    obtain rfl := Outcome.records.inj same
    obtain ⟨records, made, rfl⟩ := map_eq_ok.mp read
    obtain ⟨record, rfl⟩ := List.length_eq_one_iff.mp (length_of_mapM made)
    exact ⟨record, rfl⟩
  · next value notRecords held =>
    obtain ⟨row, -, rfl⟩ := (Outcome.ofReply_create fetch).mp held
    exact absurd rfl (notRecords [row])

variable {query : LogicalQuery σ} {start finish : σ} {calls : List Event}

/-- The hooks before a query and its lowering leave its method and its options alone. -/
theorem Prepared.eq {physical : PhysicalQuery} {left : σ}
    (prepared : Prepared registry registered query start calls physical left) :
    physical.method = query.method ∧ physical.options = query.options := by
  obtain ⟨_, reached, lowered⟩ := prepared
  have same := RegisteredModel.before_ok (congrArg Stage.made reached)
  have made := LogicalQuery.lower_eq_ok.mp lowered
  exact ⟨made.method_eq.trans same.1, made.options_eq.trans same.2⟩

/-- A course that ends well has an outcome of the kind that was asked for. -/
theorem Course.kind_eq {ended : Except QueryError Outcome}
    (course : Course registry registered query start calls ended finish)
    (notStream : query.method ≠ .stream) (done : ended = .ok outcome) :
    outcome.kind = Outcome.kindOf query.method query.options ∧
      (query.method = .create → query.options.fetch = true → ∃ record, outcome = .records [record]) := by
  cases course with
  | unprepared | unlowered | unsupported | refused | unread => cases done
  | plain prepared answered read last =>
    obtain rfl := Except.ok.inj done
    obtain ⟨method, options⟩ := prepared.eq
    rw [← method, ← options]
    exact ⟨kind_of_reading (method ▸ notStream) read, fun create fetch => reading_create create fetch read⟩
  | followed prepared answered read place =>
    obtain ⟨method, options⟩ := prepared.eq
    obtain ⟨hooked, made, rfl⟩ := map_eq_ok.mp done
    constructor
    · rw [← method, ← options, ← kind_of_reading (method ▸ notStream) read]
      rfl
    · intro create fetch
      obtain ⟨record, same⟩ := reading_create (method.trans create) (options ▸ fetch) read
      obtain rfl := Outcome.records.inj same
      obtain ⟨one, rfl⟩ := List.length_eq_one_iff.mp (RegisteredModel.length_hookRecords made)
      exact ⟨one, rfl⟩

/-- A create never asks for nothing. -/
theorem compile_create_ne_noop {query : Description σ} (create : query.method = .create) {now : Instant}
    {details : String} : query.compile registry now ≠ .error (.noop details) := by
  intro noop
  obtain ⟨registered, -, -, criteria | records⟩ := Description.compile_eq_noop noop
  · unfold Description.compileCriteria at criteria
    rw [create] at criteria
    cases criteria
  · unfold Description.compileRecords Model.compileRecord at records
    rw [create] at records
    cases given : query.records with
    | none =>
      rw [given] at records
      cases records
    | some raw =>
      rw [given] at records
      obtain ⟨fault, -, same⟩ := mapError_eq_error.mp (map_eq_error.mp records)
      cases same

/-- An operation that ends well has an outcome of the kind that its method and options ask for. -/
theorem kind_of_execute {query : Description σ} (notStream : query.method ≠ .stream) {now : Instant}
    {run after : Run σ} (done : result (registry.execute now query) run = (.ok outcome, after)) :
    outcome.kind = Outcome.kindOf query.method query.options ∧
      (query.method = .create → query.options.fetch = true → ∃ record, outcome = .records [record]) := by
  cases found : registry.model? query.model with
  | none =>
    rw [execute_of_unknown found] at done
    cases done
  | some registered =>
    rcases execute_eq_ok found done with ⟨details, noop, rfl, -⟩ | ⟨compiled, isCompiled⟩
    · exact ⟨Outcome.kind_noop .., fun create => absurd noop (compile_create_ne_noop create)⟩
    · rw [execute_of_compile found isCompiled, if_neg notStream] at done
      obtain ⟨calls, -, course⟩ := perform_course done
      obtain ⟨_, _, made⟩ := Description.compile_eq_ok.mp isCompiled
      rw [← made.method_eq, ← made.options_eq]
      exact course.kind_eq (made.method_eq ▸ notStream) rfl

/-- What an operation and its query come to over an adapter that answers anything. An operation that ends
well has an outcome of the kind that asking for nothing has, and a create that fetches has one record. A
query that its adapter does not implement is not supported. An error of the adapter is a breach of the
contract if it is no error at all, and a mutation that does not fetch ends well on every other reply, with
a warning if there is something in it. Any other query ends well if the reply stands for its outcome, and
with a breach of the contract if not. -/
theorem outcome_has_kind :
    (∀ (registry : Registry σ) (now : Instant) (query : Description σ), query.method ≠ .stream →
      ∀ run outcome after, result (registry.execute now query) run = (.ok outcome, after) →
        outcome.kind = (Outcome.noop query.method query.options).kind ∧
        outcome.kind = Outcome.kindOf query.method query.options ∧
        (query.method = .create → query.options.fetch = true → ∃ record, outcome = .records [record])) ∧
    ∀ (registered : RegisteredModel σ) (origin : Method) (query : PhysicalQuery), query.method ≠ .stream →
      ∀ run answer, registered.adapter.answer? registered.datastore query run.environment = answer →
        (answer = none → result (registered.dispatch origin query) run =
          (.error (.unsupported registered.identity query.method), run)) ∧
        (∀ error left, answer = some (.error error, left) → ∃ charged after,
          result (registered.dispatch origin query) run = (.error charged, after) ∧
          (charged.code = "E_ADAPTER_CONTRACT" ↔ ∃ value, error = .malformed value)) ∧
        ∀ reply left, answer = some (.ok reply, left) →
          (query.method.isMutation = true → query.options.fetch = false → ∃ warnings,
            result (registered.dispatch origin query) run =
              (.ok .nothing, run.advance left (registered.asked query :: warnings)) ∧
            ((reply = none ∨ reply = some .null ∨ reply = some (.list [])) ∧ warnings = [] ∨
              ¬(reply = none ∨ reply = some .null ∨ reply = some (.list [])) ∧ warnings =
                [.warned (.unrequestedRows registered.identity registered.adapter.identity query.method)])) ∧
          ((query.method.isMutation = true → query.options.fetch = true) → ∃ ended,
            result (registered.dispatch origin query) run =
              (ended, run.advance left [registered.asked query]) ∧
            (Outcome.Admits query.method query.options reply → ∃ outcome, ended = .ok outcome ∧
              outcome.kind = Outcome.kindOf query.method query.options) ∧
            (¬Outcome.Admits query.method query.options reply → ∃ breach, ended =
              .error (.contract registered.identity registered.datastore query.method breach))) := by
  constructor
  · intro registry now query notStream run outcome after done
    obtain ⟨kind, one⟩ := kind_of_execute notStream done
    exact ⟨kind.trans (Outcome.kind_noop ..).symm, kind, one⟩
  · intro registered origin query notStream run answer answered
    have same : registered.answer? query run.environment = answer := by
      rw [RegisteredModel.answer?, if_neg notStream, answered]
    refine ⟨fun none => ?_, fun error left failed => ?_, fun reply left replied => ⟨?_, ?_⟩⟩
    · exact RegisteredModel.dispatch_of_none (same.trans none) origin
    · obtain ⟨charged, warnings, dispatched, code⟩ :=
        RegisteredModel.dispatch_of_error (same.trans failed) origin
      exact ⟨charged, _, dispatched, code ▸ RegisteredModel.reportedCode_eq_contract_iff⟩
    · intro mutation unfetched
      refine ⟨_, RegisteredModel.dispatch_of_unfetched mutation unfetched (same.trans replied) origin, ?_⟩
      rw [← Outcome.isUnrequested_eq_false]
      cases Outcome.isUnrequested reply <;> simp
    · intro wanted
      refine ⟨_, RegisteredModel.dispatch_of_fetched wanted (same.trans replied) origin, ?_⟩
      rw [← Outcome.exists_ofReply_iff]
      cases held : Outcome.ofReply query.method query.options reply with
      | ok outcome => simpa [Except.mapError] using Outcome.kind_of_ofReply notStream held
      | error breach => simp [Except.mapError]

/-- Answers every query with what the environment is. -/
def echoing : Adapter (Option Json) where
  identity := "echo"
  define _ _ reply := (.ok (), reply)
  answer? _ _ reply := some (.ok reply, reply)

/-- A create of a user that fetches it. -/
def createUser (σ : Type) : Description σ where
  method := .create
  model := "user"
  records := some (.record [("name", .text "Ada")])
  options := { fetch := true }

/-- A list of one row is what a create that fetches asks for, and no count. -/
theorem echoing_has_kind :
    ∃ (registry : Registry (Option Json)) (start finish after : Run (Option Json))
      (registered : RegisteredModel (Option Json)) (outcome : Outcome) (record : Record) (breach : Breach),
      result (build .usersAndPets [("memory", echoing)] []) start = (.ok registry, finish) ∧
      finish.environment = some (.list [.record [("full_name", .text "Ada"), ("id", .ofNat 1)]]) ∧
      result (registry.execute ⟨0⟩ (createUser _)) finish = (.ok outcome, after) ∧
      outcome.kind = (Outcome.noop .create { fetch := true }).kind ∧ outcome = .records [record] ∧
      registry.model? "user" = some registered ∧
      (result (registered.dispatch .count { method := .count, table := "user" }) finish).1 =
        .error (.contract registered.identity registered.datastore .count breach) := by
  let row : Record := [("full_name", .text "Ada"), ("id", .ofNat 1)]
  let start : Run (Option Json) := { environment := some (.list [.record row]) }
  let built := result (build .usersAndPets [("memory", echoing)] []) start
  have succeeds {registry : Registry (Option Json)} (isBuilt : built.1 = .ok registry) :
      (∃ outcome, (result (registry.execute ⟨0⟩ (createUser _)) built.2).1 = .ok outcome) ∧
        ∃ registered, registry.model? "user" = some registered ∧
          registered.adapter.answer? registered.datastore { method := .count, table := "user" }
            built.2.environment = some (.ok (some (.list [.record row])), some (.list [.record row])) := by
    obtain rfl := Except.ok.inj isBuilt
    exact ⟨⟨_, by cbv⟩, _, rfl, rfl⟩
  obtain ⟨⟨outcome, done⟩, registered, found, answered⟩ := succeeds rfl
  obtain ⟨kind, -, one⟩ :=
    outcome_has_kind.1 _ ⟨0⟩ (createUser _) (by decide) built.2 outcome _ (Prod.ext done rfl)
  obtain ⟨record, same⟩ := one rfl rfl
  obtain ⟨ended, dispatched, -, breaks⟩ :=
    ((outcome_has_kind.2 registered .count { method := .count, table := "user" } (by decide) built.2 _
      answered).2.2 _ _ rfl).2 (by decide)
  obtain ⟨breach, broken⟩ := breaks (by rintro ⟨value, isCount⟩; cases isCount)
  exact ⟨_, start, _, _, registered, outcome, record, breach, rfl, rfl, Prod.ext done rfl, kind, same,
    found, (congrArg Prod.fst dispatched).trans broken⟩

end Registry

end RecordMapper
