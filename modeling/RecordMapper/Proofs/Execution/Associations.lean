import RecordMapper.Proofs.Criteria.Referring
import RecordMapper.Proofs.Execution.Cursor
import RecordMapper.Proofs.Execution.Embedding
import RecordMapper.Proofs.Query.Joins

/-! # Populated associations

A record holds under the name of a populated association what a find of the model of the association
answers with. For a plural one that is a find of the records that hold the key of the row and that the criteria
of the association mean; for a singular one it is a find of the key that the row holds.
-/

namespace RecordMapper

open Attempt Results

variable {σ : Type}

namespace Registry

section

variable (registry : Registry σ) (child : RegisteredModel σ) (options : Meta) (environment : σ)

/-- A find with raw criteria finds records in an environment, and leaves it as it is. -/
def Finds (raw : Json) (found : List Record) : Prop :=
  ∀ now events, ∃ after,
    result (registry.execute now { method := .find, model := child.identity, criteria := some raw, options })
      ⟨environment, events⟩ = (.ok (.records found), after) ∧ after.environment = environment

/-- A find with criteria that were read finds records in an environment, and leaves it as it is. -/
def FindsRead (criteria : Criteria) (found : List Record) : Prop :=
  ∀ events, ∃ after,
    result (registry.perform child { method := .find, model := child.identity, criteria, options })
      ⟨environment, events⟩ = (.ok (.records found), after) ∧ after.environment = environment

end

/-- What a record holds under the name of an association that was populated with raw criteria, or a mark that
there are none. -/
inductive Populates (registry : Registry σ) (parent : RegisteredModel σ) (name : String) (raw : Json)
    (options : Meta) (environment : σ) (row : Record) : Json → Prop where
  /-- A plural association holds what is found, with its criteria, of the records that hold the key of the
  row. -/
  | plural {target via column : String} {child : RegisteredModel σ} {criteria : Criteria} {key : Json}
      {found : List Record}
      (kind : parent.model.kind? name = some (.collection target (some via)))
      (isChild : registry.model? target = some child)
      (isKey : parent.columns.column parent.model.primaryKey = .ok column)
      (holds : Json.present? (Dictionary.get? row column) = some key)
      (read : Criteria.read child.model .find (Description.subcriteria? raw) = .ok criteria)
      (finds : registry.FindsRead child options environment (criteria.referring via key) found)
      (written : RawCriteria.Comparable child.model via key → registry.Finds child options environment
        (RawCriteria.referring child.model.primaryKey via key (Description.subcriteria? raw)) found) :
      Populates registry parent name raw options environment row (.list (found.map .record))
  /-- A plural association holds nothing if its criteria ask for nothing. -/
  | nothing {target via details : String} {child : RegisteredModel σ}
      (kind : parent.model.kind? name = some (.collection target (some via)))
      (isChild : registry.model? target = some child)
      (noop : Criteria.read child.model .find (Description.subcriteria? raw) = .error (.noop details)) :
      Populates registry parent name raw options environment row (.list [])
  /-- A plural association of a row without a key holds nothing. -/
  | keyless {target via column : String}
      (kind : parent.model.kind? name = some (.collection target (some via)))
      (isKey : parent.columns.column parent.model.primaryKey = .ok column)
      (absent : Json.present? (Dictionary.get? row column) = none) :
      Populates registry parent name raw options environment row (.list [])
  /-- A singular association holds the record that is found of the key that the row holds, or null. -/
  | singular {target column : String} {child : RegisteredModel σ} {key : Json} {found : List Record}
      (kind : parent.model.kind? name = some (.model target))
      (isChild : registry.model? target = some child)
      (isColumn : parent.columns.column name = .ok column)
      (holds : Json.present? (Dictionary.get? row column) = some key)
      (finds : registry.FindsRead child options environment (.ofKey child.model.primaryKey key) found)
      (written : RawCriteria.Comparable child.model child.model.primaryKey key →
        registry.Finds child options environment (RawCriteria.ofKey child.model.primaryKey key) found) :
      Populates registry parent name raw options environment row ((found.head?.map .record).getD .null)
  /-- A singular association of a row that holds no key holds null. -/
  | none {target column : String}
      (kind : parent.model.kind? name = some (.model target))
      (isColumn : parent.columns.column name = .ok column)
      (absent : Json.present? (Dictionary.get? row column) = none) :
      Populates registry parent name raw options environment row .null

/-- Whether records are read from the rows that a query selects, one by one, with an association populated. -/
def Populated (registry : Registry σ) (registered : RegisteredModel σ) (place : Store.Place σ) (environment : σ)
    (physical : PhysicalQuery) (name : String) (raw : Json) (records : List Record) : Prop :=
  ∃ rows, (place.part environment).rows registered.datastore physical.table = .ok rows ∧
    List.Forall₂ (fun row record => ∃ value, Dictionary.get? record name = some value ∧
        registry.Populates registered name raw physical.options environment row value)
      (physical.criteria.select rows) records

variable {registry : Registry σ} {registered child : RegisteredModel σ} {place : Store.Place σ} {options : Meta}
  {environment : σ}

/-! ## Finds of one model -/

/-- Without associations and omissions, a find is lowered to its renamed criteria. -/
theorem lower_find {criteria renamed : Criteria} (noOmission : criteria.omission = [])
    (done : criteria.rename registered.columns.column = .ok renamed) (options : Meta) :
    LogicalQuery.lower { method := .find, model := registered.identity, criteria, options } registered registry =
      .ok { method := .find, table := registered.model.table, criteria := renamed, options } := by
  refine LogicalQuery.lower_eq_ok.mpr ⟨rfl, rfl, rfl, rfl, ?_, rfl, rfl, rfl⟩
  change (LogicalQuery.resolveOmission registered.model criteria).rename _ = _
  rw [LogicalQuery.resolveOmission, noOmission, List.isEmpty_nil, if_pos rfl, done]

/-- A find in a store finds the records of the rows that its renamed criteria select. -/
theorem findsRead_of_rows (inStore : child.adapter = place.adapter) {criteria renamed : Criteria}
    (noOmission : criteria.omission = []) (done : criteria.rename child.columns.column = .ok renamed)
    {rows found : List Record}
    (stored : (place.part environment).rows child.datastore child.model.table = .ok rows)
    (read : ((renamed.select rows).map (Record.project renamed.selection [])).mapM
      (child.raiseChild !options.skipVerification) = .ok found) :
    registry.FindsRead child options environment criteria found := by
  intro events
  have fetched {origin : Method} :=
    (@fetch_find_eq_ok _ registry _ _ inStore _ rfl origin ⟨environment, events⟩ _ _).mpr
      ⟨_, _, found, lower_find noOmission done options, Store.find_of_rows stored rfl, read, rfl, rfl⟩
  exact ⟨_, (perform_find rfl _).trans fetched, rfl⟩

/-- A find with raw criteria finds what a find with the criteria that are read of them does. -/
theorem finds_of_read (found : registry.model? child.identity = some child) {raw : Json} {criteria : Criteria}
    (read : Criteria.read child.model .find (some raw) = .ok criteria) {records : List Record}
    (finds : registry.FindsRead child options environment criteria records) :
    registry.Finds child options environment raw records := by
  intro now events
  have compiled : Description.compile
      { method := .find, model := child.identity, criteria := some raw, options } registry now =
        .ok { method := .find, model := child.identity, criteria, options } :=
    Description.compile_eq_ok.mpr ⟨child, found, rfl, rfl, rfl, rfl, read, rfl, rfl, rfl, rfl, rfl⟩
  have executed := execute_of_compile found compiled ⟨environment, events⟩
  rw [if_neg (show Method.find ≠ .stream by decide)] at executed
  obtain ⟨after, performed, same⟩ := finds events
  exact ⟨after, executed.trans performed, same⟩

/-! ## What joins embed -/

/-- The rows that a plural join embeds are read as records of its model. -/
theorem embedded_rows {verified : Bool} {join : Join} (isChild : registry.model? join.childModel = some child)
    (plural : join.collection = true) {rows : List Record} {value : Json}
    (done : registry.embedded registered verified join (some (.list (rows.map .record))) = .ok value) :
    ∃ found, rows.mapM (child.raiseChild verified) = .ok found ∧ value = .list (found.map .record) := by
  unfold embedded at done
  rw [require, isChild, plural] at done
  obtain ⟨_, same, done⟩ := bind_eq_ok.mp done
  obtain rfl := Except.ok.inj same
  obtain ⟨items, read, rfl⟩ := map_eq_ok.mp done
  rw [List.mapM_map] at read
  obtain ⟨found, isFound, rfl⟩ := map_eq_ok.mp ((mapM_map Json.record).symm.trans read)
  exact ⟨found, isFound, rfl⟩

/-- The row that a singular join embeds, if it finds one, is read as a record of its model. -/
theorem embedded_row {verified : Bool} {join : Join} (isChild : registry.model? join.childModel = some child)
    (singular : join.collection = false) {row : Option Record} {value : Json}
    (done : registry.embedded registered verified join (some ((row.map Json.record).getD .null)) = .ok value) :
    ∃ found, row.toList.mapM (child.raiseChild verified) = .ok found ∧
      value = (found.head?.map .record).getD .null := by
  unfold embedded at done
  rw [require, isChild, singular] at done
  obtain ⟨_, same, done⟩ := bind_eq_ok.mp done
  obtain rfl := Except.ok.inj same
  cases row with
  | none =>
    obtain rfl := pure_eq_ok.mp done
    exact ⟨[], rfl, rfl⟩
  | some row =>
    obtain ⟨record, read, rfl⟩ := map_eq_ok.mp done
    exact ⟨[record], bind_eq_ok.mpr ⟨record, read, rfl⟩, rfl⟩

/-- What a row holds that is not absent is not null. -/
theorem notNull_of_present {held : Option Json} {key : Json} (present : Json.present? held = some key) :
    key.isNull = false := by
  simpa using (Option.filter_eq_some_iff.mp present).2

section

variable {parent : RegisteredModel σ} {name target parentKey childKey : String} {raw : Json}
  {row : Record} {children : List Record} {value : Json}

/-- What the join of a singular association embeds is found by its key. -/
theorem populates_singular (inStore : child.adapter = place.adapter)
    (isFound : registry.model? child.identity = some child)
    (stored : (place.part environment).rows child.datastore child.model.table = .ok children)
    (kind : parent.model.kind? name = some (.model target)) (isChild : registry.model? target = some child)
    (isColumn : parent.columns.column name = .ok parentKey)
    (isChildKey : child.columns.column child.model.primaryKey = .ok childKey) {join : Join}
    (isJoin : join = { field := name, parentKey, childTable := child.model.table, childKey
                       childModel := child.identity, collection := false, criteria := some {} })
    (embedded : registry.embedded parent (!options.skipVerification) join (some (join.embed children row)) =
      .ok value) :
    registry.Populates parent name raw options environment row value := by
  subst isJoin
  cases holds : Json.present? (Dictionary.get? row parentKey) with
  | none =>
    rw [Join.embed_of_absent holds] at embedded
    obtain ⟨found, none, rfl⟩ := @embedded_row _ _ _ child _ _ isFound rfl none _ embedded
    obtain rfl := pure_eq_ok.mp none
    exact .none kind isColumn holds
  | some key =>
    rw [Join.embed_singular rfl holds] at embedded
    have notNull := notNull_of_present holds
    obtain ⟨found, read, rfl⟩ := embedded_row isFound rfl embedded
    have finds : registry.FindsRead child options environment (.ofKey child.model.primaryKey key) found := by
      refine findsRead_of_rows inStore rfl (Criteria.rename_ofKey isChildKey key) stored ?_
      rw [Criteria.select_ofKey childKey notNull]
      exact (congrArg (List.mapM _) (List.map_id _)).trans read
    exact .singular kind isChild isColumn holds finds fun comparable =>
      finds_of_read isFound (Criteria.read_ofKey comparable notNull) finds

/-- What the join of a plural association embeds is found by its criteria and the key of the row. -/
theorem populates_plural (inStore : child.adapter = place.adapter)
    (isFound : registry.model? child.identity = some child)
    (stored : (place.part environment).rows child.datastore child.model.table = .ok children) {via : String}
    (notKey : via ≠ child.model.primaryKey)
    (kind : parent.model.kind? name = some (.collection target (some via)))
    (isChild : registry.model? target = some child)
    (isKey : parent.columns.column parent.model.primaryKey = .ok parentKey)
    (refers : child.columns.column via = .ok childKey) {criteria renamed : Criteria}
    (read : Criteria.read child.model .find (Description.subcriteria? raw) = .ok criteria)
    (noOmission : criteria.omission = [])
    (lowered : (LogicalQuery.showing via criteria).rename child.columns.column = .ok renamed) {join : Join}
    (isJoin : join = { field := name, parentKey, childTable := child.model.table, childKey
                       childModel := child.identity, collection := true, criteria := some renamed })
    (embedded : registry.embedded parent (!options.skipVerification) join (some (join.embed children row)) =
      .ok value) :
    registry.Populates parent name raw options environment row value := by
  subst isJoin
  cases holds : Json.present? (Dictionary.get? row parentKey) with
  | none =>
    rw [Join.embed_of_absent holds] at embedded
    obtain ⟨found, none, rfl⟩ := @embedded_rows _ _ _ child _ _ isFound rfl [] _ embedded
    obtain rfl := pure_eq_ok.mp none
    exact .keyless kind isKey holds
  | some key =>
    rw [Join.embed_plural rfl rfl holds, ← Criteria.select_restricted] at embedded
    have notNull := notNull_of_present holds
    obtain ⟨found, isRead, rfl⟩ := embedded_rows isFound rfl embedded
    have finds : registry.FindsRead child options environment (criteria.referring via key) found :=
      findsRead_of_rows inStore (by rw [Criteria.referring_eq, noOmission])
        (Criteria.rename_referring lowered refers key) stored isRead
    exact .plural kind isChild isKey holds read finds fun comparable =>
      finds_of_read isFound (Criteria.read_referring read notKey comparable notNull) finds

end

section

variable {configuration : Configuration} {parent : RegisteredModel σ} {identity name : String} {raw : Json}

/-- What the join of a compiled association embeds is what the association is populated with. -/
theorem populates_of_embedded (built : Built configuration registry)
    (found : registry.model? identity = some parent) (inStore : parent.adapter = place.adapter)
    (noOmit : RawCriteria.part (Description.subcriteria? raw) "omit" = none) {populate : String × Option Criteria}
    (compiled : Description.compilePopulate registry parent.model (name, raw) = .ok populate) {join : Join}
    (made : LogicalQuery.join registry parent populate = .ok join) {children : List Record}
    (stored : (place.part environment).rows parent.datastore join.childTable = .ok children) {row : Record}
    {value : Json}
    (embedded : registry.embedded parent (!options.skipVerification) join (some (join.embed children row)) =
      .ok value) :
    registry.Populates parent name raw options environment row value := by
  obtain ⟨isName, model, associated, given⟩ := Description.compilePopulate_eq_ok compiled
  obtain ⟨populated, subcriteria⟩ := populate
  obtain rfl : populated = name := isName
  have sameStore {target : String} {child : RegisteredModel σ} (isChild : registry.model? target = some child)
      (together : child.datastore = parent.datastore) : child.adapter = place.adapter :=
    (built.adapter_eq isChild found together).trans inStore
  have isFound {target : String} {child : RegisteredModel σ} (isChild : registry.model? target = some child) :
      registry.model? child.identity = some child := by
    rw [built.identity_eq isChild, isChild]
  have storedIn {child : RegisteredModel σ} (together : child.datastore = parent.datastore) :
      (place.part environment).rows child.datastore join.childTable = .ok children := by
    rw [together, stored]
  cases LogicalQuery.joined_of_join made with
  | singular kind isChild isColumn isChildKey =>
    obtain ⟨rfl, together⟩ := LogicalQuery.associated_child associated (.inl kind) isChild
    exact populates_singular (sameStore isChild together) (isFound isChild) (storedIn together) kind isChild isColumn
      isChildKey rfl embedded
  | @plural target via _ _ child criteria _ kind isChild isKey refers lowered =>
    obtain ⟨rfl, together⟩ := LogicalQuery.associated_child associated (.inr ⟨_, kind⟩) isChild
    obtain ⟨_, same, read⟩ := given.resolve_right (by simp)
    obtain rfl := Option.some.inj same
    have notKey : via ≠ child.model.primaryKey := by
      rintro rfl
      obtain ⟨model, back, isModel, isBack, refersBack⟩ := (built.valid_of_model? found).refersBack kind
      obtain rfl := Option.some.inj isBack
      obtain rfl := Option.some.inj ((built.find?_of_model? isChild).symm.trans isModel)
      rcases (built.valid_of_model? isChild).primaryKey with isKey | isKey <;> simp [isKey] at refersBack
    exact populates_plural (sameStore isChild together) (isFound isChild) (storedIn together) notKey kind isChild
      isKey refers read ((Criteria.readFrom_of_read read).omission_eq_nil noOmit) lowered rfl embedded
  | never kind isChild isKey refers =>
    obtain ⟨rfl, together⟩ := LogicalQuery.associated_child associated (.inr ⟨_, kind⟩) isChild
    obtain ⟨-, details, noop⟩ := given.resolve_left (by simp)
    rw [Join.embed_of_never rfl rfl] at embedded
    obtain ⟨found, none, rfl⟩ := @embedded_rows _ _ _ _ _ _ (isFound isChild) rfl [] _ embedded
    obtain rfl := pure_eq_ok.mp none
    exact .nothing kind isChild noop

/-- The rows that a store finds for a query with one association are read as records that are populated with
it. -/
theorem populated_of_found (built : Built configuration registry)
    (found : registry.model? identity = some parent) (inStore : parent.adapter = place.adapter)
    (noOmit : RawCriteria.part (Description.subcriteria? raw) "omit" = none) {populate : String × Option Criteria}
    (compiled : Description.compilePopulate registry parent.model (name, raw) = .ok populate) {join : Join}
    (made : LogicalQuery.join registry parent populate = .ok join) {physical : PhysicalQuery}
    (single : physical.joins = [join]) {answer records : List Record}
    (isFound : (place.part environment).find parent.datastore physical = .ok answer)
    (materialized : registry.materialize parent physical.joins physical.options answer = .ok records) :
    registry.Populated parent place environment physical name raw records := by
  have field : join.field = name := by
    rw [(LogicalQuery.joined_of_join made).field_eq, (Description.compilePopulate_eq_ok compiled).1]
  have nodup : (Join.fields physical.joins).Nodup := by
    rw [single]
    exact List.pairwise_singleton _ _
  obtain ⟨rows, joined, stored, isJoined, each⟩ := (find_read_iff nodup).mp ⟨answer, isFound, materialized⟩
  rw [single] at isJoined
  obtain ⟨entry, isEntry, isJoined⟩ := bind_eq_ok.mp isJoined
  obtain rfl := pure_eq_ok.mp isJoined
  obtain ⟨children, childStored, rfl⟩ := map_eq_ok.mp isEntry
  refine ⟨rows, stored, each.imp fun row record readAs => ?_⟩
  obtain ⟨bare, value, -, embedded, rfl, -⟩ := readAs_single.mp readAs
  refine ⟨value, ?_, populates_of_embedded built found inStore noOmit compiled made childStored embedded⟩
  rw [Dictionary.get?_insert, if_pos field]

end

/-- A batch of a stream is read from what a store finds for it. -/
theorem found_of_reads (inStore : registered.adapter = place.adapter) {physical : PhysicalQuery}
    {batches : List (List Record)} {batch : List Record} {left : σ}
    (reads : registry.Reads registered physical batches environment batch left) :
    ∃ answer, (place.part environment).find registered.datastore (physical.batchAfter batches) = .ok answer ∧
      registry.materialize registered (physical.batchAfter batches).joins (physical.batchAfter batches).options
        answer = .ok batch := by
  obtain ⟨payload, answered, read⟩ := reads
  have isFind : (physical.batchAfter batches).method = .find := rfl
  rw [RegisteredModel.answer?_find inStore isFind] at answered
  cases isFound : (place.part environment).find registered.datastore (physical.batchAfter batches) with
  | error error =>
    rw [isFound] at answered
    cases answered
  | ok answer =>
    rw [isFound] at answered
    obtain ⟨same, rfl⟩ := Prod.mk.inj (Option.some.inj answered)
    obtain rfl := Except.ok.inj same
    refine ⟨answer, rfl, ?_⟩
    rw [reading, isFind, Outcome.ofReply_find] at read
    obtain ⟨records, materialized, same⟩ := map_eq_ok.mp read
    rw [← Outcome.records.inj same]
    exact materialized

/-- A query that populates one association compiles to one, and lowers to its join. -/
theorem single_join {query : Description σ} {name : String} {raw : Json}
    (single : query.populates = some [(name, raw)]) {now : Instant} {compiled : LogicalQuery σ}
    (made : query.CompiledTo registry now registered.model compiled) {physical : PhysicalQuery}
    (lowered : compiled.LoweredTo registered registry physical) :
    ∃ populate join, Description.compilePopulate registry registered.model (name, raw) = .ok populate ∧
      LogicalQuery.join registry registered populate = .ok join ∧ physical.joins = [join] := by
  have populates := made.populates
  rw [Description.compilePopulates, single] at populates
  obtain ⟨populate, isCompiled, populates⟩ := bind_eq_ok.mp populates
  have joins := lowered.joins
  rw [← pure_eq_ok.mp populates] at joins
  obtain ⟨join, isMade, joins⟩ := bind_eq_ok.mp joins
  exact ⟨populate, join, isCompiled, isMade, (pure_eq_ok.mp joins).symm⟩

/-- A find or a stream that populates an association, without an omission among its criteria, and that succeeds
answers with records, or delivers records, which hold under the name of the association what separate finds of
its model answer with. A find reads them in the environment that it starts in, and a stream each batch in the
environment that the iteratee left behind. -/
theorem populated_as_found {configuration : Configuration} {adapters : Dictionary (Adapter σ)}
    {hooks : Dictionary (Hooks σ)} {start finish : Run σ}
    (built : result (build configuration adapters hooks) start = (.ok registry, finish))
    {query : Description σ} (found : registry.model? query.model = some registered)
    (inStore : registered.adapter = place.adapter) {name : String} {raw : Json}
    (single : query.populates = some [(name, raw)])
    (noOmit : RawCriteria.part (Description.subcriteria? raw) "omit" = none) {now : Instant} {run after : Run σ}
    {outcome : Outcome} (done : result (registry.execute now query) run = (.ok outcome, after)) :
    (∃ details, query.compile registry now = .error (.noop details) ∧
        outcome = .noop query.method query.options ∧ after = run) ∨
      ∃ compiled physical, query.compile registry now = .ok compiled ∧
        compiled.lower registered registry = .ok physical ∧
        ((query.method = .find ∧ ∃ records, outcome = .records records ∧
            registry.Populated registered place run.environment physical name raw records) ∨
          query.method = .stream ∧ ∃ iteratee calls, compiled.iteratee = some iteratee ∧
            after.calls = run.calls ++ calls ∧
            ∀ delivery ∈ calls.filterMap Event.delivery?, ∃ earlier environment batch,
              OfBatch registry registered physical iteratee run.environment earlier environment batch delivery ∧
              registry.Populated registered place environment (physical.batchAfter earlier) name raw batch) := by
  have isBuilt := built_of_build built
  rcases execute_eq_ok found done with ⟨details, noop, rfl, rfl⟩ | ⟨compiled, isCompiled⟩
  · exact .inl ⟨details, noop, rfl, rfl⟩
  obtain ⟨_, same, made⟩ := Description.compile_eq_ok.mp isCompiled
  obtain rfl := Option.some.inj (found.symm.trans same)
  have findOrStream : query.method = .find ∨ query.method = .stream := by
    have takes := (Description.checkParts_eq_ok.mp made.parts).2.2.2.2.1 (by rw [single]; rfl)
    revert takes
    cases query.method <;> simp [Method.takesPopulates]
  rw [execute_of_compile found isCompiled] at done
  rcases findOrStream with method | method
  · have isFind := made.method_eq.trans method
    rw [method, if_neg (by decide), perform_find isFind] at done
    obtain ⟨physical, answer, records, isLowered, isFound, materialized, rfl, -⟩ :=
      (fetch_find_eq_ok inStore isFind).mp done
    have lowered := LogicalQuery.lower_eq_ok.mp isLowered
    obtain ⟨populate, join, isPopulate, isMade, isSingle⟩ := single_join single made lowered
    rw [← lowered.options_eq] at materialized
    exact .inr ⟨compiled, physical, isCompiled, isLowered, .inl ⟨method, records, rfl,
      populated_of_found isBuilt found inStore noOmit isPopulate isMade isSingle isFound materialized⟩⟩
  · obtain ⟨iteratee, isIteratee, -⟩ := compileIteratee_stream method made.iteratee
    obtain ⟨physical, isLowered⟩ : ∃ physical, compiled.lower registered registry = .ok physical := by
      rw [LogicalQuery.exists_lower_iff isBuilt found isCompiled, written_of_stream made.parts method]
      exact fun name member => by cases member
    obtain ⟨populate, join, isPopulate, isMade, isSingle⟩ :=
      single_join single made (LogicalQuery.lower_eq_ok.mp isLowered)
    rw [if_pos method] at done
    obtain ⟨⟨⟩, between, streamed, ended⟩ := result_bind_eq_ok.mp done
    obtain ⟨-, rfl⟩ := result_pure_eq_ok.mp ended
    obtain ⟨batches, calls, environment, last, delivered, ends, called⟩ := stream_ends isLowered isIteratee streamed
    refine .inr ⟨compiled, physical, isCompiled, isLowered, .inr ⟨method, iteratee, calls ++ last, isIteratee,
      by rw [called, List.append_assoc], fun delivery member => ?_⟩⟩
    obtain ⟨earlier, environment, batch, ofBatch⟩ := exists_ofBatch delivered ends delivery member
    obtain ⟨left, reads⟩ := ofBatch.reads
    obtain ⟨answer, isFound, materialized⟩ := found_of_reads inStore reads
    have batchSingle : (physical.batchAfter earlier).joins = [join] := isSingle
    exact ⟨earlier, environment, batch, ofBatch,
      populated_of_found isBuilt found inStore noOmit isPopulate isMade batchSingle isFound materialized⟩

/-- Pets of two of three users. -/
def petRows : List Record :=
  [[("id", .ofNat 1), ("owner", .ofNat 1)], [("id", .ofNat 2), ("owner", .ofNat 1)],
    [("id", .ofNat 3), ("owner", .ofNat 2)]]

/-- Asks for the keys of all but the first. -/
def keysAfterFirst : Json :=
  .record [("select", .list [.text "id"]), ("skip", .ofNat 1)]

/-- A find of all users with the keys of their pets after the first. -/
def findLaterPets : Description Store where
  method := .find
  model := "user"
  populates := some [("pets", keysAfterFirst)]

/-- Users with their pets after the first. -/
def usersWithPets : List Record :=
  [[("id", .ofNat 1), ("name", .text "Ada"), ("pets", .list [.record [("id", .ofNat 2), ("owner", .ofNat 1)]])],
    [("id", .ofNat 2), ("name", .text "Bob"), ("pets", .list [])],
    [("id", .ofNat 3), ("name", .text "Cyd"), ("pets", .list [])]]

/-- Each user is found with the pets that a find of its pets after the first finds. -/
theorem findLaterPets_populated :
    ∃ (registry : Registry Store) (start finish run after : Run Store) (registered : RegisteredModel Store)
      (physical : PhysicalQuery),
      result (build .usersAndPets [("memory", Store.Place.alone.adapter)] []) start = (.ok registry, finish) ∧
      registry.model? findLaterPets.model = some registered ∧
      run.environment.rows "default" "user" = .ok userRows ∧ run.environment.rows "default" "pet" = .ok petRows ∧
      result (registry.execute ⟨0⟩ findLaterPets) run = (.ok (.records usersWithPets), after) ∧
      registry.Populated registered .alone run.environment physical "pets" keysAfterFirst usersWithPets := by
  let start : Run Store := { environment := { keys := { draw := toString } } }
  let built := result (build .usersAndPets [("memory", Store.Place.alone.adapter)] []) start
  let userTable : Table := { definition := { table := "user", primaryKey := "id" }, rows := userRows }
  let petTable : Table := { definition := { table := "pet", primaryKey := "id" }, rows := petRows }
  let run : Run Store :=
    { environment := (built.2.environment.put "default" "user" userTable).put "default" "pet" petTable }
  have facts {registry : Registry Store} (isBuilt : built.1 = .ok registry) :
      ∃ registered, registry.model? findLaterPets.model = some registered ∧
        registered.adapter = Store.Place.alone.adapter ∧
        (result (registry.execute ⟨0⟩ findLaterPets) run).1 = .ok (.records usersWithPets) := by
    obtain rfl := Except.ok.inj isBuilt
    exact ⟨_, rfl, rfl, by cbv⟩
  obtain ⟨registered, found, inStore, executed⟩ := facts rfl
  have done : result (Registry.execute _ ⟨0⟩ findLaterPets) run = (.ok (.records usersWithPets), _) :=
    Prod.ext executed rfl
  rcases populated_as_found (show built = _ from rfl) found inStore rfl rfl done with
    ⟨details, -, none, -⟩ | ⟨compiled, physical, -, -, ⟨-, records, isRecords, populated⟩ | ⟨isStream, -⟩⟩
  · cases none
  · obtain rfl := Outcome.records.inj isRecords
    exact ⟨_, start, _, run, _, registered, physical, rfl, found, rfl, rfl, done, populated⟩
  · cases isStream

end Registry

end RecordMapper
