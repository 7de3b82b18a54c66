import RecordMapper.Proofs.Execution.Charging
import RecordMapper.Proofs.Model.Lossless
import RecordMapper.Proofs.Registry.Enforcing
import RecordMapper.Proofs.Store.Batches
import RecordMapper.Proofs.Store.Numbering

/-! # What the caller is told of a refused write

When a store refuses a write, the column that it blames is one that the write sets, so it has an attribute of the
model, and that is what the caller is told. Only a key that the store fills in itself can clash in a column without an
attribute: models that share a table need not have its key column, and the numbers that are filled in there can be
taken.
-/

namespace RecordMapper

open Attempt Record

variable {σ : Type}

/-- Models whose identities differ are found by them. -/
theorem Model.find?_of_mem {models : List Model} (distinct : (models.map Model.identity).Nodup) {model : Model}
    (member : model ∈ models) : Model.find? models model.identity = some model := by
  induction models with
  | nil => cases member
  | cons first rest ih =>
    obtain ⟨apart, distinct⟩ := List.nodup_cons.mp distinct
    rw [Model.find?]
    rcases List.mem_cons.mp member with rfl | member
    · exact List.find?_cons_of_pos (beq_self_eq_true _)
    · have differ : first.identity ≠ model.identity := fun same => apart (same ▸ List.mem_map_of_mem member)
      exact (List.find?_cons_of_neg (by simpa using differ)).trans (ih distinct member)

/-! ## A record with a number for its key -/

namespace Model

/-- A record with a number for its key and a sample of every other attribute that has a column. -/
def numbered (model : Model) (number : Nat) : Record :=
  model.filled fun entry => if entry.1 = model.primaryKey then .ofNat number else entry.2.sample true

variable {model : Model}

/-- Where the key is a number, the record can be created. -/
theorem readRecord_numbered (isNumber : model.kind? model.primaryKey = some (.scalar .number)) (number : Nat)
    (now : Instant) :
    model.readRecord now (.record (model.numbered number)) = .ok (model.numbered number) := by
  refine readRecord_filled (fun entry stored => ?_) now
  obtain ⟨isAttribute, column⟩ := List.mem_filter.mp stored
  by_cases isKey : entry.1 = model.primaryKey
  · have kind : entry.2.kind = .scalar .number := by
      rw [kind?, ← isKey, attribute?_of_mem isAttribute] at isNumber
      exact Option.some.inj isNumber
    rw [if_pos isKey, Attribute.checkValue, kind]
    exact ⟨rfl, rfl⟩
  · rw [if_neg isKey]
    exact ⟨entry.2.isNull_sample true, Attribute.checkValue_sample column entry.1 true⟩

variable {models : List Model} (valid : model.Valid models)

include valid

theorem number?_rowOf_numbered {column : String}
    (isColumn : (Columns.ofModel model).column model.primaryKey = .ok column) (number : Nat) :
    ((Columns.ofModel model).rowOf (model.numbered number)).number? column = some number := by
  obtain ⟨declared, -, holds⟩ := get?_rowOf_filled valid isColumn
  rw [Record.number?, numbered, holds, if_pos rfl]
  simp [Json.ofNat, Json.nat?, Number.toNat?]

/-- Its row holds nothing that the row of the first one of twins holds, be they of the same model or of another one. -/
theorem not_agree_numbered {other : Model} (otherValid : other.Valid models) {number : Nat} (notZero : number ≠ 0)
    (shared column : String) :
    ¬Agree column ((Columns.ofModel other).rowOf (other.twin shared false))
      ((Columns.ofModel model).rowOf (model.numbered number)) := by
  rintro ⟨value, held, isHeld, isFound, -, same⟩
  by_cases claimed : ∃ name, (Columns.ofModel other).column name = .ok column
  · obtain ⟨_, isColumn⟩ := claimed
    obtain ⟨declared, sample⟩ := get?_rowOf_twin otherValid isColumn shared
    obtain rfl := Option.some.inj (isHeld.symm.trans (sample false))
    by_cases numbers : ∃ name, (Columns.ofModel model).column name = .ok column
    · obtain ⟨_, isItsColumn⟩ := numbers
      obtain ⟨numbering, -, holds⟩ := get?_rowOf_filled valid isItsColumn
      obtain rfl := Option.some.inj (isFound.symm.trans (holds _))
      rw [Bool.false_and] at same
      split at same
      · rw [declared.not_same_ofNat notZero] at same
        cases same
      · rw [declared.not_same_sample] at same
        cases same
    · rw [numbered, get?_rowOf_filled_eq_none numbers] at isFound
      cases isFound
  · rw [get?_rowOf_twin_eq_none claimed] at isHeld
    cases isHeld

end Model

/-- An error tells of a write that it was refused for one attribute with a column: in that column a row that would
have been written agrees with another one, written or left alone. -/
def RegisteredModel.TellsClash (registered : RegisteredModel σ) (origin : Method) (table : Table) (supply : KeySupply)
    (physical : PhysicalQuery) (charged : QueryError) : Prop :=
  ∃ name column message footprint, charged = .notUnique registered.identity [name] message footprint origin ∧
    registered.columns.column name = .ok column ∧
    ClashesIn column (table.affected supply physical) (table.untouched physical)

namespace Registry

variable {registry : Registry σ} {registered other : RegisteredModel σ} {place : Store.Place σ} {now : Instant}
  {query : Description σ} {run : Run σ} {physical : PhysicalQuery} {environment : σ} {error : AdapterError}
  {table next : Table}

/-- A write that a store refuses ends with the attribute for which it does, if the column of the key is one of the
model, or else the keys that the store fills in are fresh texts. -/
theorem execute_tellsClash (found : registry.model? query.model = some registered)
    (inStore : registered.adapter = place.adapter) (faithful : registered.columns.Faithful) (writes : query.Writes)
    (refused : registry.Refused registered now query run physical environment error)
    (stored : (place.part environment).table registered.datastore registered.model.table = .ok table)
    (admits : table.definition.Admits table.rows)
    (keyed : (∃ name, registered.columns.column name = .ok table.definition.primaryKey) ∨
      table.definition.autoIncrement = false ∧
        (place.part environment).keys.FreshFor table.definition.primaryKey table.rows) :
    ∃ charged, (result (registry.execute now query) run).1 = .error charged ∧
      registered.TellsClash query.method table (place.part environment).keys physical charged := by
  obtain ⟨charged, executed, tells⟩ := execute_of_refused found writes.notStream refused
  have method := refused.method_eq
  obtain ⟨compiled, calls, left, compilation, ⟨prepared, reached, lowering⟩, answered⟩ := refused
  have lowered := LogicalQuery.lower_eq_ok.mp lowering
  have writesHere : physical.Writes := by
    rw [PhysicalQuery.Writes, method]
    exact writes
  rw [RegisteredModel.answer?_inStore inStore (method ▸ writes.notStream)] at answered
  obtain ⟨⟨reply, after⟩, isRefused, same⟩ := Option.map_eq_some_iff.mp answered
  obtain ⟨rfl, -⟩ := Prod.mk.inj same
  obtain ⟨column, rfl, clashes, given⟩ :=
    Store.refused_cases (lowered.table_eq ▸ stored) writesHere admits isRefused
  obtain ⟨name, isColumn⟩ : ∃ name, registered.columns.column name = .ok column := by
    rcases given with sets | ⟨rfl, filled⟩
    · exact exists_column_of_sets lowered sets
    · rcases keyed with claimed | ⟨texts, fresh⟩
      · exact claimed
      · rcases filled with numbers | stale
        · rw [texts] at numbers
          cases numbers
        · exact absurd fresh stale
  have isCharged := tells.eq_notUnique
  rw [List.map_singleton, faithful.nameOf_eq isColumn] at isCharged
  exact ⟨charged, executed, name, column, _, _, isCharged, isColumn, clashes⟩

/-! ## A refusal that is not told -/

/-- A registered model that is valid among others, and whose table is kept in the store at a place. -/
structure Houses (registry : Registry σ) (place : Store.Place σ) (models : List Model)
    (registered : RegisteredModel σ) : Prop where
  valid : registered.model.Valid models
  ofModel : registered.columns = Columns.ofModel registered.model
  found : registry.model? registered.model.identity = some registered
  inStore : registered.adapter = place.adapter

variable {models : List Model} {record row : Record} {keys : KeySupply}

theorem Houses.answer_addOne (houses : registry.Houses place models registered) (record : Record) (environment : σ) :
    registered.answer? (registered.addOne record) environment =
      some (((place.part environment).create registered.datastore (registered.addOne record)).map id
        (place.put environment)) :=
  RegisteredModel.answer?_inStore houses.inStore (show Method.create ≠ .stream by decide) environment

/-- A record that the table takes is added to it. -/
theorem Houses.answer_of_added (houses : registry.Houses place models registered)
    (stored : (place.part environment).table registered.datastore registered.model.table = .ok table)
    (added : table.add (place.part environment).keys (registered.columns.rowOf record) = (.ok (row, next), keys)) :
    ∃ payload, registered.answer? (registered.addOne record) environment =
      some (.ok payload, place.put environment
        (({ place.part environment with keys } : Store).put registered.datastore registered.model.table next)) := by
  have created : (place.part environment).create registered.datastore (registered.addOne record) = _ :=
    @Store.create_single_of_ok _ _ (registered.addOne record) _ _ _ stored _ _ added
  rw [houses.answer_addOne, created]
  exact ⟨_, rfl⟩

/-- A record that clashes is refused. -/
theorem Houses.answer_of_clash (houses : registry.Houses place models registered)
    (stored : (place.part environment).table registered.datastore registered.model.table = .ok table)
    {column : String}
    (refused : table.add (place.part environment).keys (registered.columns.rowOf record) = (.error column, keys)) :
    ∃ left, registered.answer? (registered.addOne record) environment =
      some (.error (.notUnique [column]), left) := by
  have clashed : (place.part environment).create registered.datastore (registered.addOne record) = _ :=
    @Store.create_single_of_error _ _ (registered.addOne record) _ _ stored _ _ refused
  rw [houses.answer_addOne, clashed]
  exact ⟨_, rfl⟩

/-- After operations that are no streams, every write of a model that the store refuses is told for an attribute, as
long as the texts that are drawn for keys, if the model has no column for them, are fresh. -/
def TellsRefusals (registry : Registry σ) (registered : RegisteredModel σ) (place : Store.Place σ) (key : String)
    (run : Run σ) : Prop :=
  ∀ operations, (∀ operation ∈ operations, operation.2.method ≠ .stream) →
    ∀ now (query : Description σ), query.model = registered.identity → query.Writes →
    ∀ physical environment error table,
      registry.Refused registered now query (registry.after run operations) physical environment error →
      (place.part environment).table registered.datastore registered.model.table = .ok table →
      ((∃ name, registered.columns.column name = .ok key) ∨
        (place.part environment).keys.FreshFor key table.rows) →
      ∃ charged, (result (registry.execute now query) (registry.after run operations)).1 = .error charged ∧
        registered.TellsClash query.method table (place.part environment).keys physical charged

/-- A create of the numbered record with the largest number leaves this number, too, for the next record that brings
no key. -/
theorem Houses.after_numbered (houses : registry.Houses place models other)
    (stored : (place.part run.environment).table other.datastore other.model.table = .ok table)
    (describes : table.definition.Describes other.model) (empty : table.rows = [])
    (numbered : table.definition.autoIncrement = true) :
    ∃ full : Table, full.definition = table.definition ∧ full.nextNumber.toNat = Table.largestNumber ∧
      full.rows = [other.columns.rowOf (other.model.numbered Table.largestNumber)] ∧
      place.part (registry.after run
          [(⟨0⟩, other.model.createOne (other.model.numbered Table.largestNumber))]).environment =
        (place.part run.environment).put other.datastore other.model.table full := by
  have isNumber := Model.number?_rowOf_numbered houses.valid describes.primaryKey Table.largestNumber
  rw [← houses.ofModel] at isNumber
  have counted : (max table.nextNumber (.ofNatClamp (Table.largestNumber + 1))).toNat = Table.largestNumber := by
    rw [UInt64.toNat_max, UInt64.toNat_ofNatClamp_of_le (by decide)]
    exact max_eq_right (Table.toNat_le_largestNumber _)
  have added := Table.add_number empty isNumber (place.part run.environment).keys
  obtain ⟨payload, answered⟩ := houses.answer_of_added stored added
  have read := Model.readRecord_numbered (describes.autoIncrement.mp numbered) Table.largestNumber ⟨0⟩
  have covers : other.columns.Covers (other.model.numbered Table.largestNumber) :=
    houses.ofModel ▸ other.model.covers_filled _
  have left := execute_of_answer houses.found (show Method.create ≠ .stream by decide) (.inl rfl)
    (RegisteredModel.compile_createOne houses.found read) (RegisteredModel.lower_addOne covers) answered
  refine ⟨{ table with rows := [_], nextNumber := _ }, rfl, counted, rfl, ?_⟩
  rw [after, List.foldl_cons, List.foldl_nil, left, place.part_put]

section Unclaimed

variable (houses : registry.Houses place models registered)
  (unclaimed : ¬∃ name, registered.columns.column name = .ok table.definition.primaryKey)

include houses unclaimed

/-- A model that has no column for the key of its table brings none. -/
theorem Houses.get?_rowOf_twin_eq_none (shared : String) (second : Bool) :
    Dictionary.get? (registered.columns.rowOf (registered.model.twin shared second)) table.definition.primaryKey =
      none := by
  rw [houses.ofModel] at unclaimed ⊢
  exact Model.get?_rowOf_twin_eq_none unclaimed shared second

/-- So its records are refused for the key where the next number is taken. -/
theorem Houses.refused_of_taken
    (stored : (place.part run.environment).table registered.datastore registered.model.table = .ok table)
    (numbered : table.definition.autoIncrement = true)
    (taken : ∃ row ∈ table.rows, row.number? table.definition.primaryKey = some table.nextNumber.toNat)
    (shared : String) :
    registry.Refused registered ⟨0⟩ (registered.model.createOne (registered.model.twin shared false)) run
      (registered.addOne (registered.model.twin shared false)) run.environment
      (.notUnique [table.definition.primaryKey]) := by
  have lacks : ¬(registered.columns.rowOf (registered.model.twin shared false)).Has table.definition.primaryKey := by
    rw [not_has_iff, houses.get?_rowOf_twin_eq_none unclaimed]
    rfl
  obtain ⟨left, answered⟩ :=
    houses.answer_of_clash stored (table.add_taken numbered lacks taken (place.part run.environment).keys)
  have covers : registered.columns.Covers (registered.model.twin shared false) :=
    houses.ofModel ▸ registered.model.covers_twin shared false
  exact ⟨_, [], left,
    RegisteredModel.compile_createOne houses.found (registered.model.readRecord_twin shared ⟨0⟩ false),
    ⟨_, registered.before_of_quiet (.inl rfl) _, RegisteredModel.lower_addOne covers⟩, answered⟩

/-- No attribute can be told of then: the record holds under none of them what a numbered record of the other model
holds in its column. -/
theorem Houses.not_tellsClash (otherHouses : registry.Houses place models other) {number : Nat} (notZero : number ≠ 0)
    (rows : table.rows = [other.columns.rowOf (other.model.numbered number)]) (shared : String) (origin : Method)
    (supply : KeySupply) (charged : QueryError) :
    ¬registered.TellsClash origin table supply (registered.addOne (registered.model.twin shared false)) charged := by
  rintro ⟨name, column, _, _, -, isColumn, before, row, after, affected, beside, isBeside, agree⟩
  obtain ⟨rfl, isRow, rfl⟩ : before = [] ∧
      (table.keyed supply (registered.columns.rowOf (registered.model.twin shared false))).1 = row ∧ after = [] := by
    cases before with
    | nil => simpa [Table.affected, RegisteredModel.addOne, Table.keyedAll, eq_comm] using affected
    | cons first rest => simp [Table.affected, RegisteredModel.addOne, Table.keyedAll] at affected
  have isNumbered : beside = other.columns.rowOf (other.model.numbered number) := by
    have member : beside ∈ table.rows := isBeside
    rwa [rows, List.mem_singleton] at member
  have apart : table.definition.primaryKey ≠ column := by
    rintro rfl
    exact unclaimed ⟨name, isColumn⟩
  have same :=
    (table.keyed_spec supply (registered.columns.rowOf (registered.model.twin shared false))).get?_other apart
  rw [isRow] at same
  rw [agree_congr same rfl, isNumbered, houses.ofModel, otherHouses.ofModel] at agree
  exact Model.not_agree_numbered otherHouses.valid houses.valid notZero shared column agree

/-- If the table numbers its rows, then the refusals of such a model are not all told for an attribute. -/
theorem Houses.not_tellsRefusals (otherHouses : registry.Houses place models other)
    (sameDatastore : other.datastore = registered.datastore) (sameTable : other.model.table = registered.model.table)
    (stored : (place.part run.environment).table registered.datastore registered.model.table = .ok table)
    (describes : table.definition.Describes other.model) (empty : table.rows = [])
    (draws : Function.Injective (place.part run.environment).keys.draw)
    (numbered : table.definition.autoIncrement = true) :
    ¬registry.TellsRefusals registered place table.definition.primaryKey run := by
  intro told
  obtain ⟨full, definition, next, rows, left⟩ :=
    otherHouses.after_numbered (sameDatastore ▸ sameTable ▸ stored) describes empty numbered
  rw [sameDatastore, sameTable] at left
  rw [← definition] at unclaimed numbered describes told
  have isNumber := Model.number?_rowOf_numbered otherHouses.valid describes.primaryKey
    Table.largestNumber
  rw [← otherHouses.ofModel] at isNumber
  have storedThen : (place.part (registry.after run [(⟨0⟩, other.model.createOne
      (other.model.numbered Table.largestNumber))]).environment).table registered.datastore registered.model.table =
        .ok full := by
    rw [left, Store.table_put_self]
  have refused := houses.refused_of_taken unclaimed storedThen numbered
    ⟨_, rows ▸ List.mem_singleton_self _, isNumber.trans (congrArg some next.symm)⟩ registered.model.primaryKey
  have fresh : (place.part (registry.after run [(⟨0⟩, other.model.createOne
      (other.model.numbered Table.largestNumber))]).environment).keys.FreshFor full.definition.primaryKey
        full.rows := by
    rw [left, rows]
    refine ⟨draws, fun count _ row member isText => ?_⟩
    rw [List.mem_singleton.mp member] at isText
    rw [number?, isText] at isNumber
    cases isNumber
  obtain ⟨charged, -, tells⟩ := told _ (by simp [Model.createOne]) ⟨0⟩ _ rfl (.inl rfl) _ _ _ _ refused storedThen
    (.inr fresh)
  exact houses.not_tellsClash unclaimed otherHouses (by decide) rows _ _ _ _ tells

end Unclaimed

/-! ## Refusals after a build -/

/-- Where the column of the key is one of the model, or the keys that are filled in are texts, refusals are told. -/
theorem Houses.tellsRefusals (houses : registry.Houses place models registered) (asks : registry.OnlyAsks place)
    {definition : TableDefinition} (keeps : (place.part run.environment).Keeps registered.datastore definition)
    (sameTable : definition.table = registered.model.table)
    (keyed : (∃ name, registered.columns.column name = .ok definition.primaryKey) ∨
      definition.autoIncrement = false) :
    registry.TellsRefusals registered place definition.primaryKey run := by
  intro operations notStream now query isModel writes physical environment error table refused stored fresh
  have found : registry.model? query.model = some registered := isModel ▸ houses.found
  have faithful : registered.columns.Faithful := houses.ofModel ▸ Columns.faithful_ofModel houses.valid
  -- hooks before the query ask the store at most, so it still keeps the definition when the query is put to it
  obtain ⟨_, _, _, _, prepared, _⟩ := refused
  obtain ⟨queries, asked⟩ := prepared.asked (asks _ _ houses.found)
  obtain ⟨kept, isKept, rfl, admits⟩ := asked ▸ (keeps_after asks keeps notStream).after queries
  obtain rfl : kept = table := Except.ok.inj ((sameTable ▸ isKept).symm.trans stored)
  refine execute_tellsClash found houses.inStore faithful writes ⟨_, _, _, ‹_›, prepared, ‹_›⟩ stored admits ?_
  rcases keyed with claimed | texts
  · exact .inl claimed
  · exact fresh.imp id fun fresh => ⟨texts, fresh⟩

section Build

variable {configuration : Configuration} {adapters : Dictionary (Adapter σ)} {hooks : Dictionary (Hooks σ)}
  {start finish : Run σ}

/-- Every model of a configuration is registered. -/
theorem exists_registered (built : result (build configuration adapters hooks) start = (.ok registry, finish))
    {model : Model} (member : model ∈ configuration.models) :
    ∃ registered, registry.model? model.identity = some registered ∧ registered.model = model := by
  rcases handsOver_of_build built with ⟨error, -, same, -⟩ | ⟨passed, -⟩
  · cases same
  · have isFound := Model.find?_of_mem (check_eq_ok passed).1 member
    rw [← (built_of_build built).model_eq] at isFound
    exact Option.map_eq_some_iff.mp isFound

/-- The last model of a table is registered, and its columns are in the same store. -/
theorem Houses.exists_last (built : result (build configuration adapters hooks) start = (.ok registry, finish))
    (houses : registry.Houses place configuration.models registered) {last : Model}
    (isLast : Model.lastAt? configuration.models registered.datastore registered.model.table = some last) :
    ∃ other, registry.Houses place configuration.models other ∧ other.model = last ∧
      other.datastore = registered.datastore := by
  obtain ⟨member, sameDatastore, -⟩ := Model.lastAt?_eq_some isLast
  obtain ⟨other, found, rfl⟩ := exists_registered built member
  have holds := built_of_build built
  exact ⟨other, {
    valid := holds.valid _ member
    ofModel := holds.columns_eq found
    found
    inStore := (holds.adapter_eq found houses.found sameDatastore).trans houses.inStore }, rfl, sameDatastore⟩

/-- Whatever the adapter of a model answers with, its error is classified by what it is, and told with the names of
attributes for columns. What is told of a write that a store refuses is an attribute with a column in which two rows
would agree: of every refusal, after whatever operations, exactly where the last model of the table has its key in a
column of the model, or its key is not a number. Elsewhere some create is refused for a key that the store filled in,
and no attribute is told. -/
theorem refusals_told_iff (built : result (build configuration adapters hooks) start = (.ok registry, finish))
    {identity : String} (found : registry.model? identity = some registered) :
    (∀ origin method error run, ∃ charged, (result (registered.charge origin method error) run).1 = .ok charged ∧
      registered.Classifies origin method error charged) ∧
    (∀ now (query : Description σ) run physical environment error, query.model = identity →
      query.method ≠ .stream → registry.Refused registered now query run physical environment error →
      ∃ charged, (result (registry.execute now query) run).1 = .error charged ∧
        registered.Classifies query.method query.method error charged) ∧
    (∀ column name, registered.columns.nameOf column = name ↔ registered.model.Names column name) ∧
    ∀ place : Store.Place σ, place.Respected adapters hooks → registered.adapter = place.adapter →
      (place.part start.environment).Bare registered.datastore registered.model.table →
      Function.Injective (place.part start.environment).keys.draw →
      ∃ last, Model.lastAt? configuration.models registered.datastore registered.model.table = some last ∧
        (registry.TellsRefusals registered place (TableDefinition.ofModel last (Columns.ofModel last)).primaryKey
            finish ↔
          (∃ name, registered.columns.column name =
            .ok (TableDefinition.ofModel last (Columns.ofModel last)).primaryKey) ∨
          (TableDefinition.ofModel last (Columns.ofModel last)).autoIncrement = false) := by
  have holds := built_of_build built
  have valid := holds.valid_of_model? found
  have isIdentity : registered.model.identity = identity := holds.identity_eq found
  refine ⟨fun origin method error run => ?_,
    fun now query run physical environment error isModel notStream refused => ?_,
    fun column name => holds.columns_eq found ▸ Columns.nameOf_eq_iff valid,
    fun place respected inStore bare draws => ?_⟩
  · obtain ⟨charged, warnings, isCharged, tells⟩ := RegisteredModel.charge_tells registered origin method error run
    exact ⟨charged, congrArg Prod.fst isCharged, tells.classifies⟩
  · obtain ⟨charged, executed, tells⟩ := execute_of_refused (isModel ▸ found) notStream refused
    exact ⟨charged, executed, tells.classifies⟩
  · obtain ⟨keys, last, table, isLast, stored, definition, empty⟩ :=
      table_of_build built respected found inStore bare
    have houses : registry.Houses place configuration.models registered := {
      valid
      ofModel := holds.columns_eq found
      found := isIdentity ▸ found
      inStore }
    obtain ⟨-, -, sameTable⟩ := Model.lastAt?_eq_some isLast
    refine ⟨last, isLast, ⟨fun told => ?_, fun keyed => ?_⟩⟩
    · by_contra unclaimed
      obtain ⟨unclaimed, numbered⟩ := not_or.mp unclaimed
      obtain ⟨other, otherHouses, rfl, sameDatastore⟩ := houses.exists_last built isLast
      rw [← definition] at unclaimed numbered told
      exact houses.not_tellsRefusals unclaimed otherHouses sameDatastore sameTable stored
        (definition ▸ TableDefinition.describes_ofModel otherHouses.valid) empty
        (keys ▸ draws) (Bool.eq_true_of_not_eq_false numbered) told
    · have keeps :
          (place.part finish.environment).Keeps registered.datastore (.ofModel last (Columns.ofModel last)) :=
        ⟨table, (congrArg _ sameTable).trans stored, definition, fun _ _ => empty ▸ List.Pairwise.nil⟩
      exact houses.tellsRefusals (onlyAsks_of_build built respected) keeps sameTable keyed

end Build

/-- Two models of one table, of which the second has a key of its own: the store fills it in for the records of the
first one, too, and then tells of no attribute that the first model has. -/
theorem sharedTable_refusals_not_told :
    ∃ (registry : Registry Store) (start finish : Run Store) (registered : RegisteredModel Store),
      result (build sharedTable [("memory", Store.Place.alone.adapter)] []) start = (.ok registry, finish) ∧
      registry.model? "first" = some registered ∧
      ¬registry.TellsRefusals registered Store.Place.alone "key" finish ∧
      ∃ charged, (result (registered.charge .create .create (.notUnique ["key"])) finish).1 = .ok charged ∧
        charged.code = "E_UNIQUE" := by
  let start : Run Store := { environment := { keys := { draw := Nat.repr } } }
  let built := result (build sharedTable [("memory", Store.Place.alone.adapter)] []) start
  have respected : Store.Place.alone.Respected [("memory", Store.Place.alone.adapter)] [] :=
    ⟨fun entry member => .inl (by rw [List.mem_singleton.mp member]), nofun⟩
  have first {registry : Registry Store} (isBuilt : built.1 = .ok registry) :
      ∃ registered, registry.model? "first" = some registered ∧
        registered.adapter = Store.Place.alone.adapter ∧ registered.datastore = "default" ∧
        registered.model.table = "shared" ∧ ∀ name, registered.columns.column name ≠ .ok "key" := by
    obtain rfl := Except.ok.inj isBuilt
    refine ⟨_, rfl, rfl, rfl, rfl, fun name isColumn => ?_⟩
    have isEntry := Dictionary.mem_of_get? (Columns.column_eq_ok.mp isColumn)
    change (name, "key") ∈ [("id", "id")] at isEntry
    simp at isEntry
  obtain ⟨registered, found, inStore, datastore, name, unclaimed⟩ := first rfl
  have bare : start.environment.Bare registered.datastore registered.model.table :=
    fun table stored => by cases stored
  obtain ⟨classifies, -, -, exactly⟩ :=
    refusals_told_iff (show built = _ from rfl) found
  obtain ⟨last, isLast, told⟩ := exactly _ respected inStore bare fun _ _ => Nat.repr_injective
  rw [datastore, name] at isLast
  obtain rfl : _ = last := Option.some.inj isLast
  obtain ⟨charged, isCharged, classified⟩ := classifies .create .create (.notUnique ["key"]) built.2
  refine ⟨_, start, _, registered, rfl, found, mt told.mp ?_, charged, isCharged, ?_⟩
  · rintro (⟨name, isColumn⟩ | texts)
    · exact unclaimed name isColumn
    · cases texts
  · have blames := Footprint.ofJson?_eq_some_iff.mp (Footprint.ofJson?_toJson ⟨Footprint.notUnique, ["key"]⟩)
    exact classified.notUnique.mpr ⟨_, _, ["key"], rfl, blames⟩

end Registry

end RecordMapper
