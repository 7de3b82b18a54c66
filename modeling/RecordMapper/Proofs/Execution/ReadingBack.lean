import RecordMapper.Proofs.Execution.Mutating
import RecordMapper.Proofs.Execution.Populating
import RecordMapper.Proofs.Json.Document
import RecordMapper.Proofs.Model.Fitting
import RecordMapper.Proofs.Registry.Tables

/-! # Reading back what was created

The row of a record that fits is read back as the record, and so is every part of it that a find may show. The
keys that a table fills in fit as well, if the table has them where and as the model does. So what creates add can
be read back if the defaults of the model fit. A default that does not fit is found in some new record, which is
added like any other and can then not be read.
-/

namespace RecordMapper

open Attempt Results

variable {σ : Type}

/-- A table has the keys of a model: they are in the column of the model's key, and the table numbers its rows
exactly if that key is a number. -/
structure TableDefinition.KeysOf (definition : TableDefinition) (model : Model) : Prop where
  primaryKey : (Columns.ofModel model).column model.primaryKey = .ok definition.primaryKey
  autoIncrement : definition.autoIncrement = true ↔ model.kind? model.primaryKey = some (.scalar .number)

theorem TableDefinition.Describes.keysOf {definition : TableDefinition} {model : Model}
    (describes : definition.Describes model) : definition.KeysOf model :=
  ⟨describes.primaryKey, describes.autoIncrement⟩

namespace Model

variable {model : Model} {models : List Model}

/-- A record does not drift if it has its key and everything that it holds fits. -/
theorem drift?_eq_none_iff {record : Record} :
    model.drift? record = none ↔ record.Has model.primaryKey ∧ model.Fits record := by
  rw [drift?_eq_none]
  exact and_congr_right fun _ => Prod.forall

/-- The keys that a table fills in fit, if it has the keys of the model. -/
theorem fits_filledKey (valid : model.Valid models) {definition : TableDefinition} (keys : definition.KeysOf model)
    {declared : Attribute} (isKey : model.attribute? model.primaryKey = some declared) {value : Json}
    (filled : if definition.autoIncrement then value.isNumber = true else value.isText = true) :
    declared.fits value = true := by
  have autoIncrement := keys.autoIncrement
  have kind := valid.primaryKey
  rw [kind?, isKey, Option.map_some] at autoIncrement kind
  rcases kind with isText | isNumber
  · have unnumbered : definition.autoIncrement = false := by
      rw [Bool.eq_false_iff, ne_eq, autoIncrement, isText]
      simp
    rw [unnumbered, if_neg Bool.false_ne_true] at filled
    cases value <;> simp_all [Json.isText, Attribute.fits, Json.isNull, ScalarType.accepts]
  · rw [autoIncrement.mpr isNumber, if_pos rfl] at filled
    cases value <;> simp_all [Json.isNumber, Attribute.fits, Json.isNull, ScalarType.accepts]

end Model

/-- The new records of a query fit if the defaults of their model do. -/
theorem Description.CompiledTo.records_fit {registry : Registry σ} {query : Description σ} {now : Instant}
    {model : Model} {compiled : LogicalQuery σ} (made : query.CompiledTo registry now model compiled)
    {models : List Model} (valid : model.Valid models) (defaults : model.DefaultsFit) :
    ∀ record ∈ compiled.records, model.Fits record := by
  have done := made.records
  unfold compileRecords at done
  split at done
  · obtain ⟨record, read, one⟩ := map_eq_ok.mp done
    rw [← one]
    exact List.forall_mem_singleton.mpr (Model.readRecord_fits valid defaults (mapError_eq_ok.mp read))
  · exact Model.compileRecords_fits valid defaults done
  · cases done
  · cases done
  · rw [← Except.ok.inj done]
    simp

/-- A record that can be read back from its row: the table can keep it, and it does not drift. -/
structure RegisteredModel.Readable (registered : RegisteredModel σ) (record : Record) : Prop where
  storable : registered.columns.Storable record
  fits : registered.model.drift? record = none

namespace Registry

variable {registry : Registry σ} {registered : RegisteredModel σ} {place : Store.Place σ}

/-! ## The rows of new records -/

/-- Records that fit can be read back once a table has given them their keys. -/
theorem readable_created {models : List Model} (valid : registered.model.Valid models)
    (faithful : registered.columns.Faithful) {table : Table} (keys : table.definition.KeysOf registered.model)
    (isKey : registered.columns.column registered.model.primaryKey = .ok table.definition.primaryKey)
    {given created : List Record} (each : ∀ record ∈ given, registered.columns.Storable record)
    (fits : ∀ record ∈ given, registered.model.Fits record)
    (keyed : List.Forall₂ (Record.Keyed registered.model.primaryKey) given created) {supply : KeySupply}
    (rows : created.map registered.columns.rowOf =
      table.keyedAll supply (given.map registered.columns.rowOf)) :
    ∀ record ∈ created, registered.Readable record := by
  have storable := Columns.storable_of_forall₂_keyed isKey each keyed
  intro record member
  obtain ⟨before, isGiven, isKeyed⟩ := exists_mem_of_forall₂ keyed record member
  refine ⟨storable record member, Model.drift?_eq_none_iff.mpr ⟨isKeyed.has, ?_⟩⟩
  intro name declared isAttribute value held
  by_cases isName : registered.model.primaryKey = name
  · subst isName
    have inRow := faithful.get?_rowOf (storable record member) isKey
    rw [held] at inRow
    have isRow : registered.columns.rowOf record ∈ table.keyedAll supply (given.map registered.columns.rowOf) :=
      rows ▸ List.mem_map_of_mem member
    rcases Table.mem_keyedAll isRow with wasGiven | ⟨key, isFilled, filled⟩
    · obtain ⟨other, isOther, same⟩ := List.mem_map.mp wasGiven
      rw [← same, faithful.get?_rowOf (each other isOther) isKey] at inRow
      exact fits other isOther _ _ isAttribute value inRow
    · obtain rfl := Option.some.inj (isFilled.symm.trans inRow)
      exact Model.fits_filledKey valid keys (Model.attribute?_of_mem isAttribute) filled
  · rw [isKeyed.get?_other isName] at held
    exact fits before isGiven name declared isAttribute value held

/-! ## Finding them -/

variable {now : Instant} {find : Description σ} {compiled : LogicalQuery σ} {physical : PhysicalQuery} {run : Run σ}

/-- What criteria show of the row of a record that can be read back is read, as the part of the record that they
show. -/
theorem readAs_of_readable (registry : Registry σ) (faithful : registered.columns.Faithful)
    (stores : ∀ name, (∃ column, registered.columns.column name = .ok column) ↔
      name ∈ Dictionary.names registered.model.stored)
    {raw : Option Json} {criteria renamed : Criteria} (parts : criteria.ReadFrom registered.model raw)
    (done : (LogicalQuery.resolveOmission registered.model criteria).rename registered.columns.column = .ok renamed)
    {record : Record} (readable : registered.Readable record) (verified : Bool) :
    registry.ReadAs registered [] renamed.selection verified (registered.columns.rowOf record)
      (record.filter fun entry => criteria.shows entry.1) := by
  have kept : (registered.columns.rowOf record).filter (fun entry =>
      Criteria.selects renamed.selection entry.1 && Join.leaves [] entry.1) =
        registered.columns.rowOf (record.filter fun entry => criteria.shows entry.1) := by
    rw [← Criteria.project_rowOf faithful parts.selection_or_omission done readable.storable
      fun name member => (stores name).mp ⟨_, readable.storable.covers name member⟩, Record.project_eq_filter]
    exact List.filter_congr fun entry _ => Bool.and_true _
  refine ⟨_, [], ?_, rfl, rfl, fun _ => ?_⟩
  · rw [List.map_nil, kept]
    exact faithful.raise_rowOf (readable.storable.filter _)
  · refine Model.drift?_of_parts readable.fits readable.fits (fun value held => ?_) fun name value held => .inl ?_
    · exact (Dictionary.get?_filter_names record criteria.shows _).trans ((if_pos parts.shows_primaryKey).trans held)
    · exact Dictionary.get?_of_mem readable.storable.sorted.nodup (List.mem_filter.mp (Dictionary.mem_of_get? held)).1

/-- A find without associations that selects rows of records which can be read back succeeds. -/
theorem execute_find_of_readable {configuration : Configuration} (holds : Built configuration registry)
    (found : registry.model? find.model = some registered) (inStore : registered.adapter = place.adapter)
    (isFind : find.method = .find) (alone : find.populates = none)
    (made : find.CompiledTo registry now registered.model compiled)
    (lowered : compiled.LoweredTo registered registry physical) {rows : List Record}
    (stored : (place.part run.environment).rows registered.datastore registered.model.table = .ok rows)
    (each : ∀ row ∈ physical.criteria.select rows,
      ∃ record, registered.Readable record ∧ registered.columns.rowOf record = row) :
    ∃ records after, result (registry.execute now find) run = (.ok (.records records), after) := by
  have faithful : registered.columns.Faithful :=
    holds.columns_eq found ▸ Columns.faithful_ofModel (holds.valid_of_model? found)
  have criteria := made.criteria
  rw [Description.compileCriteria, isFind] at criteria
  have renamed := lowered.criteria
  rw [joins_eq_nil_of_alone alone made lowered] at renamed
  obtain ⟨records, read⟩ := exists_forall₂_of_forall fun row member => by
    obtain ⟨record, readable, isRow⟩ := each row member
    exact ⟨_, isRow ▸ readAs_of_readable registry faithful (fun name => holds.exists_column_iff found)
      (Criteria.readFrom_of_read criteria) renamed readable (!find.options.skipVerification)⟩
  obtain ⟨after, executed⟩ := (execute_find_alone_iff found inStore isFind alone made).mpr
    ⟨physical, records, rows, lowered, rfl, stored, read⟩
  exact ⟨records, after, executed⟩

/-- Some rows of a table can be read back: every find of the model without associations that selects no others
succeeds, whatever it shows of them, if it can be carried out at all. -/
def ReadsBack (registry : Registry σ) (registered : RegisteredModel σ) (run : Run σ) (rows added : List Record) :
    Prop :=
  ∀ (find : Description σ) (now : Instant) (compiled : LogicalQuery σ) (physical : PhysicalQuery),
    find.model = registered.model.identity → find.method = .find → find.populates = none →
    find.compile registry now = .ok compiled → compiled.lower registered registry = .ok physical →
    (∀ row ∈ physical.criteria.select rows, row ∈ added) →
    ∃ records after, result (registry.execute now find) run = (.ok (.records records), after)

/-- The rows of records that can be read back can be read back. -/
theorem readsBack_of_readable {configuration : Configuration} (holds : Built configuration registry)
    (found : registry.model? registered.model.identity = some registered)
    (inStore : registered.adapter = place.adapter) {rows created : List Record}
    (stored : (place.part run.environment).rows registered.datastore registered.model.table = .ok rows)
    (readable : ∀ record ∈ created, registered.Readable record) :
    registry.ReadsBack registered run rows (created.map registered.columns.rowOf) := by
  intro find now compiled physical isModel isFind alone compilation lowering selects
  rw [← isModel] at found
  obtain ⟨_, same, made⟩ := Description.compile_eq_ok.mp compilation
  obtain rfl := Option.some.inj (found.symm.trans same)
  refine execute_find_of_readable holds found inStore isFind alone made (LogicalQuery.lower_eq_ok.mp lowering)
    stored fun row member => ?_
  obtain ⟨record, isCreated, isRow⟩ := List.mem_map.mp (selects row member)
  exact ⟨record, readable record isCreated, isRow⟩

/-! ## Creating them -/

section

variable {create : Description σ} (found : registry.model? create.model = some registered)
  (inStore : registered.adapter = place.adapter) (creates : create.method.takesRecords = true)
  (quiet : registered.Quiet create.options) {table : Table}
  (stored : (place.part run.environment).table registered.datastore registered.model.table = .ok table)

include found inStore creates quiet stored

/-- A create that calls no hook adds nothing to its table, or its records with the keys that the table fills in. -/
theorem execute_create_cases (now : Instant) :
    ∃ left added,
      (place.part (result (registry.execute now create) run).2.environment).table registered.datastore
        registered.model.table = .ok left ∧
      left.rows = table.rows ++ added ∧
      (added = [] ∨ ∃ compiled physical, create.CompiledTo registry now registered.model compiled ∧
        compiled.LoweredTo registered registry physical ∧
        added = table.keyedAll (place.part run.environment).keys physical.records) := by
  have mutation : create.method.isMutation = true := by
    revert creates
    cases create.method <;> decide
  obtain ⟨left, isLeft, unchanged | ⟨compiled, physical, made, lowered, outcome⟩⟩ :=
    execute_mutation_cases found inStore quiet mutation stored now
  · exact ⟨left, [], isLeft, by rw [unchanged, List.append_nil], .inl rfl⟩
  · refine ⟨left, _, isLeft, ?_, .inr ⟨compiled, physical, made, lowered, rfl⟩⟩
    rw [outcome, Table.outcome, lowered.method_eq, made.method_eq]
    cases method : create.method <;> rw [method] at creates <;> first | rfl | cases creates

/-- What a create that calls no hook adds to the table of its model can be read back, if the defaults of the model
fit and the table has its keys. -/
theorem readsBack_of_create {configuration : Configuration} (holds : Built configuration registry)
    (defaults : registered.model.DefaultsFit) (given : ∀ raw, create.records = some raw → raw.Sorted)
    (keys : table.definition.KeysOf registered.model) (now : Instant) :
    ∃ left added,
      (place.part (result (registry.execute now create) run).2.environment).table registered.datastore
        registered.model.table = .ok left ∧
      left.rows = table.rows ++ added ∧
      registry.ReadsBack registered (result (registry.execute now create) run).2 left.rows added := by
  have valid := holds.valid_of_model? found
  have ofModel := holds.columns_eq found
  have faithful : registered.columns.Faithful := ofModel ▸ Columns.faithful_ofModel valid
  have itself : registry.model? registered.model.identity = some registered := by
    rwa [show registered.model.identity = create.model from holds.identity_eq found]
  obtain ⟨left, added, isLeft, isAdded, adding⟩ := execute_create_cases found inStore creates quiet stored now
  have rows : (place.part (result (registry.execute now create) run).2.environment).rows registered.datastore
      registered.model.table = .ok left.rows := by
    rw [Store.rows, isLeft]
    rfl
  obtain ⟨created, readable, isCreated⟩ : ∃ created : List Record,
      (∀ record ∈ created, registered.Readable record) ∧ created.map registered.columns.rowOf = added := by
    rcases adding with rfl | ⟨compiled, physical, made, lowered, rfl⟩
    · exact ⟨[], List.forall_mem_nil _, rfl⟩
    · have isKey : registered.columns.column registered.model.primaryKey = .ok table.definition.primaryKey :=
        ofModel ▸ keys.primaryKey
      have storable := lowered.storable (made.records_sorted given)
      obtain ⟨created, keyed, same, -⟩ :=
        exists_created faithful lowered storable (.inl isKey) (place.part run.environment).keys
      refine ⟨created, ?_, same⟩
      rw [lowered.records_eq.2] at same
      exact readable_created valid faithful keys isKey storable (made.records_fit valid defaults) keyed same
  exact ⟨left, added, isLeft, isAdded, isCreated ▸ readsBack_of_readable holds itself inStore rows readable⟩

end

end Registry

/-! ## A default that does not fit -/

namespace Model

/-- A create of a record that leaves one attribute open. -/
abbrev createLeaving (model : Model) (name : String) : Description σ :=
  model.createOne (model.leaving name)

/-- A find of all records. -/
def findAll (model : Model) : Description σ where
  method := .find
  model := model.identity

theorem sorted_leaving (model : Model) (name : String) : (Json.record (model.leaving name)).Sorted := by
  constructor
  · have inOrder := model.sorted_stored.filter fun entry => entry.1 ≠ name
    unfold Dictionary.Sorted at inOrder ⊢
    rw [leaving, List.map_map]
    exact inOrder
  · refine Json.sortedFields_iff.mpr fun entry member => ?_
    obtain ⟨⟨_, declared⟩, -, rfl⟩ := List.mem_map.mp member
    dsimp only
    unfold Attribute.sample
    split <;> exact trivial

/-- What is read of a record that leaves an attribute open is covered. -/
theorem covers_readRecord_leaving {models : List Model} (valid : model.Valid models) {name : String} {now : Instant}
    {record : Record} (read : model.readRecord now (.record (model.leaving name)) = .ok record) :
    (Columns.ofModel model).Covers record := by
  refine Stores.covers ((readRecord_names valid.primaryKey_mem read).2.mp fun other member => ?_)
  rw [Json.fieldNames, names_leaving] at member
  exact (List.mem_filter.mp member).1

end Model

namespace RegisteredModel

variable {registry : Registry σ} {registered : RegisteredModel σ}

/-- The find of all records in its checked form. -/
theorem compile_findAll (found : registry.model? registered.model.identity = some registered) (now : Instant) :
    (registered.model.findAll : Description σ).compile registry now =
      .ok { method := .find, model := registered.model.identity } :=
  Description.compile_eq_ok.mpr ⟨registered, found, rfl, rfl, rfl, rfl, rfl, rfl, rfl, rfl, rfl, rfl⟩

/-- The find of all records in terms of the table of their model. -/
theorem lower_findAll (registry : Registry σ) (registered : RegisteredModel σ) :
    LogicalQuery.lower { method := .find, model := registered.model.identity } registered registry =
      .ok { method := .find, table := registered.model.table } :=
  LogicalQuery.lower_eq_ok.mpr ⟨rfl, rfl, rfl, rfl, rfl, rfl, rfl, rfl⟩

end RegisteredModel

namespace Registry

variable {registry : Registry σ} {registered : RegisteredModel σ} {place : Store.Place σ} {run : Run σ}

/-- A record whose row is all that a table holds fits, if the row can be read back. -/
theorem fits_of_readsBack (found : registry.model? registered.model.identity = some registered)
    (inStore : registered.adapter = place.adapter) (faithful : registered.columns.Faithful) {record : Record}
    (storable : registered.columns.Storable record)
    (stored : (place.part run.environment).rows registered.datastore registered.model.table =
      .ok [registered.columns.rowOf record])
    (back : registry.ReadsBack registered run [registered.columns.rowOf record] [registered.columns.rowOf record]) :
    registered.model.Fits record := by
  have compiled := RegisteredModel.compile_findAll found ⟨0⟩
  obtain ⟨_, same, made⟩ := Description.compile_eq_ok.mp compiled
  obtain rfl := Option.some.inj (found.symm.trans same)
  obtain ⟨records, after, executed⟩ := back _ ⟨0⟩ _ _ rfl rfl rfl compiled
    (RegisteredModel.lower_findAll registry registered) fun _ => Criteria.mem_of_mem_select
  obtain ⟨physical, _, rows, lowered, -, isRows, read⟩ :=
    (execute_find_alone_iff found inStore (show (registered.model.findAll : Description σ).method = .find from rfl)
      rfl made).mp ⟨after, executed⟩
  obtain rfl := Except.ok.inj ((RegisteredModel.lower_findAll registry registered).symm.trans
    (LogicalQuery.lower_eq_ok.mpr lowered))
  obtain rfl := Except.ok.inj (stored.symm.trans isRows)
  change List.Forall₂ _ (Criteria.select {} _) _ at read
  rw [Criteria.select_default] at read
  cases read with
  | cons here _ =>
    obtain ⟨raised, fits⟩ := readAs_nil.mp here
    rw [faithful.raise_rowOf storable] at raised
    obtain rfl := Except.ok.inj raised
    exact (Model.drift?_eq_none_iff.mp (fits rfl)).2

/-- A default is found in a new record that an empty table takes. So it fits, if what is added there can be read
back. -/
theorem default_fits_of_readsBack {configuration : Configuration} (holds : Built configuration registry)
    (found : registry.model? registered.model.identity = some registered)
    (inStore : registered.adapter = place.adapter)
    {name : String} {declared : Attribute} (isStored : (name, declared) ∈ registered.model.stored)
    (notKey : name ≠ registered.model.primaryKey) {value : Json} (isDefault : declared.default = some value)
    {table : Table}
    (stored : (place.part run.environment).table registered.datastore registered.model.table = .ok table)
    (empty : table.rows = []) (keys : table.definition.KeysOf registered.model) {left : Table} {added : List Record}
    (isLeft : (place.part (result (registry.execute ⟨0⟩ (registered.model.createLeaving name)) run).2.environment).table
      registered.datastore registered.model.table = .ok left)
    (isAdded : left.rows = table.rows ++ added)
    (back : registry.ReadsBack registered
      (result (registry.execute ⟨0⟩ (registered.model.createLeaving name)) run).2 left.rows added) :
    declared.fits value = true := by
  have valid := holds.valid_of_model? found
  have ofModel := holds.columns_eq found
  have faithful : registered.columns.Faithful := ofModel ▸ Columns.faithful_ofModel valid
  have isKey : registered.columns.column registered.model.primaryKey = .ok table.definition.primaryKey :=
    ofModel ▸ keys.primaryKey
  obtain ⟨record, read, held⟩ := Model.exists_default_kept isStored notKey isDefault ⟨0⟩
  have covers : registered.columns.Covers record := ofModel ▸ Model.covers_readRecord_leaving valid read
  have inOrder := Model.readRecord_sorted (registered.model.sorted_leaving name) read
  have lowering := @RegisteredModel.lower_addOne _ registry registered record covers
  have fills : registered.FillsKeys table.definition (registered.model.addOne record : LogicalQuery σ).records :=
    .inl isKey
  obtain ⟨created, keyed, rows, storable⟩ := exists_created faithful (LogicalQuery.lower_eq_ok.mp lowering)
    (List.forall_mem_singleton.mpr ⟨inOrder, covers⟩) fills (place.part run.environment).keys
  obtain ⟨after, _, here, rest, rfl⟩ := List.forall₂_cons_left_iff.mp keyed
  obtain rfl := List.forall₂_nil_left_iff.mp rest
  have outcome : table.outcome (place.part run.environment).keys (registered.addOne record) =
      [registered.columns.rowOf after] := by
    unfold Table.outcome
    rw [empty]
    exact rows.symm
  obtain ⟨written, finish, executed, isWritten, -, writtenRows⟩ := execute_of_admitted found inStore (.inl rfl) rfl
    stored (RegisteredModel.compile_createOne found read) lowering (by
      rw [outcome]
      exact fun _ _ => List.pairwise_singleton _ _)
  rw [executed] at isLeft back
  obtain rfl := Except.ok.inj (isWritten.symm.trans isLeft)
  rw [empty, List.nil_append] at isAdded
  rw [← isAdded, writtenRows, outcome] at back
  have inStoreRows : (place.part finish.environment).rows registered.datastore registered.model.table =
      .ok [registered.columns.rowOf after] := by
    rw [Store.rows, isWritten]
    exact congrArg Except.ok (writtenRows.trans outcome)
  have fits :=
    fits_of_readsBack found inStore faithful (storable after (List.mem_singleton_self after)) inStoreRows back
  exact fits name declared (List.mem_filter.mp isStored).1 value ((here.get?_other notKey.symm).trans held)

/-- What is written fits what is read, but for what is filled in. The new records of a model of a registry that was
built, and those of lists of them, fit exactly if the defaults of the model do; the values of updates fit exactly
if no plural association is stamped. And exactly if the defaults fit, what creates that call no hook add to the
table of the model in a store can be read back, whatever the store holds, provided that the table has the keys of
the model. -/
theorem writes_fit_iff {configuration : Configuration} {adapters : Dictionary (Adapter σ)}
    {hooks : Dictionary (Hooks σ)} {start finish : Run σ}
    (built : result (build configuration adapters hooks) start = (.ok registry, finish)) {identity : String}
    (found : registry.model? identity = some registered) (inStore : registered.adapter = place.adapter) :
    ((∀ now raw record, registered.model.readRecord now raw = .ok record → registered.model.Fits record) ↔
        registered.model.DefaultsFit) ∧
      ((∀ now raw records, registered.model.compileRecords now raw = .ok records →
          ∀ record ∈ records, registered.model.Fits record) ↔ registered.model.DefaultsFit) ∧
      ((∀ now raw values, registered.model.readChanges now raw = .ok values → registered.model.Fits values) ↔
        ¬∃ name ∈ registered.model.stamped, registered.model.Plural name) ∧
      ((∀ (create : Description σ) (now : Instant) (run : Run σ) (table : Table), create.model = identity →
          create.method.takesRecords = true → registered.Quiet create.options →
          (∀ raw, create.records = some raw → raw.Sorted) →
          (place.part run.environment).table registered.datastore registered.model.table = .ok table →
          table.definition.KeysOf registered.model →
          ∃ left added,
            (place.part (result (registry.execute now create) run).2.environment).table registered.datastore
              registered.model.table = .ok left ∧
            left.rows = table.rows ++ added ∧
            registry.ReadsBack registered (result (registry.execute now create) run).2 left.rows added) ↔
        registered.model.DefaultsFit) := by
  have holds := built_of_build built
  have valid := holds.valid_of_model? found
  refine ⟨Model.records_fit_iff valid, Model.recordLists_fit_iff valid, Model.changes_fit_iff valid, ?_, ?_⟩
  · intro each name declared isStored notKey value isDefault
    have isIdentity : registered.model.identity = identity := holds.identity_eq found
    have keys := (TableDefinition.describes_ofModel valid).keysOf
    -- an empty table as the model describes it
    let table : Table := { definition := .ofModel registered.model (Columns.ofModel registered.model) }
    let run : Run σ := { start with
      environment := place.put start.environment
        ((place.part start.environment).put registered.datastore registered.model.table table) }
    have stored : (place.part run.environment).table registered.datastore registered.model.table = .ok table := by
      rw [place.part_put, Store.table_put_self]
    obtain ⟨left, added, isLeft, isAdded, back⟩ := each (registered.model.createLeaving name) ⟨0⟩ run table isIdentity
      rfl (.inl rfl) (fun raw same => Option.some.inj same ▸ registered.model.sorted_leaving name) stored keys
    rw [← isIdentity] at found
    exact default_fits_of_readsBack holds found inStore isStored notKey isDefault stored rfl keys isLeft
      isAdded back
  · intro defaults create now run table isModel creates quiet given stored keys
    subst isModel
    exact readsBack_of_create found inStore creates quiet stored holds defaults given keys now

/-- Users whose name is the number five unless it is given, although names are texts. -/
def misfitNames : Configuration where
  datastores := [("default", { adapter := "memory" })]
  models := [
    { identity := "user", datastore := "default"
      attributes := [("id", .ofType .number),
        ("name", { Attribute.ofType .string with default := some (.ofNat 5) })] }]

/-- A registry is built of users with a default that does not fit, and a user that is created cannot be found. -/
theorem misfitNames_unreadable :
    ∃ (registry : Registry Store) (start finish run : Run Store) (registered : RegisteredModel Store)
      (create : Description Store) (now : Instant) (table left : Table) (added : List Record),
      result (build misfitNames [("memory", Store.Place.alone.adapter)] []) start = (.ok registry, finish) ∧
      registry.model? "user" = some registered ∧ registered.adapter = Store.Place.alone.adapter ∧
      create.method.takesRecords = true ∧ registered.Quiet create.options ∧
      run.environment.table "default" "user" = .ok table ∧ table.definition.KeysOf registered.model ∧
      (result (registry.execute now create) run).2.environment.table "default" "user" = .ok left ∧
      left.rows = table.rows ++ added ∧
      ¬registry.ReadsBack registered (result (registry.execute now create) run).2 left.rows added := by
  let start : Run Store := { environment := { keys := { draw := toString } } }
  let built := result (build misfitNames [("memory", Store.Place.alone.adapter)] []) start
  have users {registry : Registry Store} (isBuilt : built.1 = .ok registry) :
      ∃ registered, registry.model? "user" = some registered ∧
        registered.adapter = Store.Place.alone.adapter ∧ registered.datastore = "default" ∧
        registered.model.table = "user" ∧
        ∃ declared, ("name", declared) ∈ registered.model.stored ∧ "name" ≠ registered.model.primaryKey ∧
          declared.default = some (.ofNat 5) ∧ declared.fits (.ofNat 5) = false := by
    obtain rfl := Except.ok.inj isBuilt
    exact ⟨_, rfl, rfl, rfl, rfl, _, .tail _ (.head _), by decide, rfl, rfl⟩
  obtain ⟨registry, isBuilt⟩ : ∃ registry, built.1 = .ok registry := ⟨_, rfl⟩
  obtain ⟨registered, found, inStore, datastore, name, declared, isStored, notKey, isDefault, misfit⟩ :=
    users isBuilt
  have builds : built = (.ok registry, built.2) := Prod.ext isBuilt rfl
  obtain ⟨-, -, -, exactly⟩ := writes_fit_iff builds found inStore
  have unfit : ¬registered.model.DefaultsFit := by
    intro defaults
    have fits := defaults "name" declared isStored notKey _ isDefault
    rw [misfit] at fits
    cases fits
  have unreadable := mt exactly.mp unfit
  push Not at unreadable
  obtain ⟨create, now, run, table, isModel, creates, quiet, -, stored, keys, fails⟩ := unreadable
  rw [← isModel] at found
  obtain ⟨left, added, isLeft, isAdded, -⟩ := execute_create_cases found inStore creates quiet stored now
  have unread := fails left added isLeft isAdded
  rw [datastore, name] at stored isLeft
  exact ⟨registry, start, _, run, registered, create, now, table, left, added, builds, isModel ▸ found, inStore,
    creates, quiet, stored, keys, isLeft, isAdded, unread⟩

end Registry

end RecordMapper
