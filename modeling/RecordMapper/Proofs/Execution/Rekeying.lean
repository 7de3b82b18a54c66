import RecordMapper.Proofs.Execution.Mutating

/-! # Whether updates keep keys

The caller of an update cannot set the key. But an update also stamps every attribute that asks for it, and the
key of a model may be one of them. So the values of an update hold the key exactly if the key is stamped, and
then the update writes the time over the keys of the rows that it selects. Where the key is not stamped, every
row keeps its key, whatever a store holds and whatever an update asks for.
-/

namespace RecordMapper

open Attempt Results

variable {σ : Type}

/-- Rows hold, one by one, in a column what others hold there. -/
def Record.SameIn (column : String) (rows others : List Record) : Prop :=
  List.Forall₂ (fun row other => Dictionary.get? other column = Dictionary.get? row column) rows others

theorem Record.SameIn.refl (column : String) (rows : List Record) : Record.SameIn column rows rows :=
  List.forall₂_same.mpr fun _ _ => rfl

/-- Rows keep what they hold in a column that is not written. -/
theorem Table.overwritten_sameIn (table : Table) (clause : Clause) {values : Record} {column : String}
    (unwritten : column ∉ Dictionary.names values) :
    Record.SameIn column table.rows (table.overwritten clause values) := by
  refine List.forall₂_map_right_iff.mpr (List.forall₂_same.mpr fun row _ => ?_)
  split
  · exact Dictionary.get?_insertAll_of_notMem unwritten
  · rfl

namespace Model

variable {model : Model} {now : Instant} {raw : Json} {values : Record}

theorem readChange_ne_primaryKey {entry change : String × Json} (done : model.readChange entry = .ok change) :
    entry.1 ≠ model.primaryKey := by
  unfold readChange at done
  obtain ⟨declared, -, done⟩ := bind_eq_ok.mp done
  intro isKey
  rw [if_pos isKey] at done
  cases done

/-- The caller of an update gives no value for the key. -/
theorem primaryKey_notMem_fieldNames (done : model.readChanges now raw = .ok values) :
    model.primaryKey ∉ raw.fieldNames := by
  unfold readChanges at done
  split at done
  · next entries =>
    obtain ⟨given, read, -⟩ := bind_eq_ok.mp done
    intro member
    obtain ⟨entry, isEntry, isKey⟩ := List.mem_map.mp member
    obtain ⟨change, step⟩ := exists_mapM_eq_ok_iff.mp ⟨_, read⟩ entry isEntry
    exact readChange_ne_primaryKey step isKey
  · cases done

/-- The values of an update hold the key exactly if it is stamped. -/
theorem primaryKey_mem_names_iff (done : model.readChanges now raw = .ok values) :
    model.primaryKey ∈ Dictionary.names values ↔ model.primaryKey ∈ model.stamped := by
  rw [(readChanges_names done).2, or_iff_right (primaryKey_notMem_fieldNames done)]

/-- An update that is given no values and calls no hook. -/
def touch (model : Model) : Description σ where
  method := .update
  model := model.identity
  values := some (.record [])
  options := { skipHooks := true }

/-- The update in its checked form. -/
def stampAll (model : Model) (now : Instant) : LogicalQuery σ where
  method := .update
  model := model.identity
  values := some (Dictionary.ofList (model.stamps now []))
  options := { skipHooks := true }

end Model

namespace RegisteredModel

variable {registry : Registry σ} {registered : RegisteredModel σ}

/-- The update in terms of the table of the model. -/
def stampAll (registered : RegisteredModel σ) (now : Instant) : PhysicalQuery where
  method := .update
  table := registered.model.table
  values := some (registered.columns.rowOf (Dictionary.ofList (registered.model.stamps now [])))
  options := { skipHooks := true }

theorem compile_touch (found : registry.model? registered.model.identity = some registered) (now : Instant) :
    (registered.model.touch : Description σ).compile registry now = .ok (registered.model.stampAll now) :=
  Description.compile_eq_ok.mpr ⟨registered, found, rfl, rfl, rfl, rfl, rfl, rfl, rfl, rfl, rfl, rfl⟩

/-- The update can be lowered if all attributes that it stamps are stored. -/
theorem lower_stampAll {now : Instant}
    (covers : registered.columns.Covers (Dictionary.ofList (registered.model.stamps now []))) :
    (registered.model.stampAll now : LogicalQuery σ).lower registered registry =
      .ok (registered.stampAll now) := by
  refine LogicalQuery.lower_eq_ok.mpr ⟨rfl, rfl, rfl, rfl, rfl, ?_, rfl, rfl⟩
  dsimp only [Model.stampAll]
  rw [Columns.lower_of_covers covers]
  rfl

end RegisteredModel

namespace Registry

variable {registry : Registry σ} {registered : RegisteredModel σ} {place : Store.Place σ}

/-- An update of a model whose key is not stamped does not write the column of the key. -/
theorem key_unwritten (faithful : registered.columns.Faithful) {column : String}
    (isColumn : registered.columns.column registered.model.primaryKey = .ok column)
    (unstamped : registered.model.primaryKey ∉ registered.model.stamped) {now : Instant} {raw : Json}
    {values : Record} (read : registered.model.readChanges now raw = .ok values)
    (covers : registered.columns.Covers values) :
    column ∉ Dictionary.names (registered.columns.rowOf values) := by
  intro member
  rw [Columns.rowOf, Dictionary.mem_names_ofList, List.map_map] at member
  obtain ⟨entry, isEntry, same⟩ := List.mem_map.mp member
  have isName : entry.1 ∈ Dictionary.names values := List.mem_map_of_mem isEntry
  have isItsColumn : registered.columns.column entry.1 = .ok column := same ▸ covers entry.1 isName
  rw [faithful.eq_of_column isItsColumn isColumn] at isName
  exact unstamped ((Model.primaryKey_mem_names_iff read).mp isName)

/-- An update that can be lowered stamps stored attributes only. -/
theorem stamped_stores {configuration : Configuration} (holds : Built configuration registry) {identity : String}
    (found : registry.model? identity = some registered) {now : Instant} {raw : Json} {values : Record}
    (read : registered.model.readChanges now raw = .ok values) (covers : registered.columns.Covers values) :
    registered.model.Stores registered.model.stamped := by
  intro name member
  rw [← holds.exists_column_iff found]
  exact ⟨_, covers name (((Model.readChanges_names read).2 name).mpr (.inr member))⟩

/-- Where the key is not stamped, or something is that is not stored, an update that calls no hook leaves every
row of its table the key that it has. -/
theorem update_sameIn {configuration : Configuration} (holds : Built configuration registry)
    {query : Description σ} (found : registry.model? query.model = some registered)
    (inStore : registered.adapter = place.adapter) (quiet : registered.Quiet query.options)
    (updates : query.method = .update) {column : String}
    (isColumn : registered.columns.column registered.model.primaryKey = .ok column)
    (spares : registered.model.primaryKey ∉ registered.model.stamped ∨
      ¬registered.model.Stores registered.model.stamped)
    {run : Run σ} {table : Table}
    (stored : (place.part run.environment).table registered.datastore registered.model.table = .ok table)
    (now : Instant) :
    ∃ left, (place.part (result (registry.execute now query) run).2.environment).table registered.datastore
        registered.model.table = .ok left ∧ Record.SameIn column table.rows left.rows := by
  have mutation : query.method.isMutation = true := by
    rw [updates]
    rfl
  have faithful : registered.columns.Faithful :=
    holds.columns_eq found ▸ Columns.faithful_ofModel (holds.valid_of_model? found)
  obtain ⟨left, isLeft, unchanged | ⟨compiled, physical, made, lowered, outcome⟩⟩ :=
    execute_mutation_cases found inStore quiet mutation stored now
  · exact ⟨left, isLeft, unchanged ▸ .refl column table.rows⟩
  · obtain ⟨raw, values, -, read, isValues⟩ := made.values_of_update updates
    obtain ⟨covers, rowValues⟩ := lowered.values_eq isValues
    have unstamped := spares.resolve_right (not_not_intro (stamped_stores holds found read covers))
    refine ⟨left, isLeft, ?_⟩
    rw [outcome, Table.outcome, lowered.method_eq, made.method_eq, updates, rowValues]
    exact table.overwritten_sameIn _ (key_unwritten faithful isColumn unstamped read covers)

/-- What the update writes is stored if all attributes that ask for stamps are. -/
theorem stamps_covers {configuration : Configuration} (holds : Built configuration registry) {identity : String}
    (found : registry.model? identity = some registered)
    (stores : registered.model.Stores registered.model.stamped) (now : Instant) :
    registered.columns.Covers (Dictionary.ofList (registered.model.stamps now [])) := by
  intro name member
  have isStamped : name ∈ registered.model.stamped := by
    simpa [Json.fieldNames, Dictionary.names] using
      ((Model.readChanges_names (registered.model.readChanges_empty now)).2 name).mp member
  obtain ⟨column, isColumn⟩ := (holds.exists_column_iff found).mpr (stores name isStamped)
  rw [Columns.columnOf_of_ok isColumn]
  exact isColumn

/-- At the start of 1970 no stamp is the number one. -/
theorem stamp_ne_one (declared : Attribute) : declared.stamp ⟨0⟩ ≠ .ofNat 1 := by
  have start : Instant.milliseconds ⟨0⟩ = 0 := Instant.milliseconds_ofMilliseconds 0
  unfold Attribute.stamp Json.ofNat
  split
  · simp [start]
  · exact Json.noConfusion

/-- Where the key is stamped and has a column, the update writes a stamp there. -/
theorem exists_key_written (faithful : registered.columns.Faithful) {column : String}
    (isColumn : registered.columns.column registered.model.primaryKey = .ok column)
    (stamped : registered.model.primaryKey ∈ registered.model.stamped) {now : Instant}
    (covers : registered.columns.Covers (Dictionary.ofList (registered.model.stamps now []))) :
    ∃ declared : Attribute,
      Dictionary.get? (registered.columns.rowOf (Dictionary.ofList (registered.model.stamps now []))) column =
        some (declared.stamp now) := by
  have isWritten := (Model.primaryKey_mem_names_iff (registered.model.readChanges_empty now)).mpr stamped
  obtain ⟨value, held⟩ := Dictionary.exists_get?_iff.mpr isWritten
  obtain ⟨entry, -, same⟩ := List.mem_map.mp (Dictionary.mem_of_get?_ofList held)
  refine ⟨entry.2, ?_⟩
  rw [faithful.get?_rowOf ⟨Dictionary.sorted_ofList _, covers⟩ isColumn, held]
  exact congrArg some (Prod.mk.inj same).2.symm

/-- Where the key is stamped, and only stored attributes are, an update changes the key of a row. -/
theorem touch_not_sameIn {configuration : Configuration} (holds : Built configuration registry)
    (found : registry.model? registered.model.identity = some registered)
    (inStore : registered.adapter = place.adapter) {column : String}
    (isColumn : registered.columns.column registered.model.primaryKey = .ok column)
    (stamped : registered.model.primaryKey ∈ registered.model.stamped)
    (stores : registered.model.Stores registered.model.stamped) {run : Run σ} {table : Table}
    (stored : (place.part run.environment).table registered.datastore registered.model.table = .ok table)
    (rows : table.rows = [[(column, .ofNat 1)]]) :
    ∃ left, (place.part (result (registry.execute ⟨0⟩ registered.model.touch) run).2.environment).table
        registered.datastore registered.model.table = .ok left ∧ ¬Record.SameIn column table.rows left.rows := by
  have faithful : registered.columns.Faithful :=
    holds.columns_eq found ▸ Columns.faithful_ofModel (holds.valid_of_model? found)
  have covers := stamps_covers holds found stores ⟨0⟩
  obtain ⟨declared, written⟩ := exists_key_written faithful isColumn stamped covers
  have outcome : table.outcome (place.part run.environment).keys (registered.stampAll ⟨0⟩) =
      [Dictionary.insertAll [(column, .ofNat 1)]
        (registered.columns.rowOf (Dictionary.ofList (registered.model.stamps ⟨0⟩ [])))] := by
    simp only [Table.outcome, RegisteredModel.stampAll, Table.overwritten, rows]
    rfl
  obtain ⟨left, after, executed, isLeft, -, leftRows⟩ := execute_of_admitted found inStore (.inl rfl) rfl stored
    (RegisteredModel.compile_touch found ⟨0⟩) (RegisteredModel.lower_stampAll covers) (by
      rw [outcome]
      exact fun _ _ => List.pairwise_singleton _ _)
  rw [executed]
  refine ⟨left, isLeft, ?_⟩
  rw [leftRows, outcome, rows]
  rintro (_ | ⟨same, _⟩)
  have sortedRow : Dictionary.Sorted
      (registered.columns.rowOf (Dictionary.ofList (registered.model.stamps ⟨0⟩ []))) := Dictionary.sorted_ofList _
  rw [Dictionary.get?_insertAll sortedRow.nodup, written] at same
  apply stamp_ne_one declared
  simpa [Dictionary.get?] using same

/-- The values of an update hold the key of a model of a registry that was built exactly if the key is stamped.
And exactly if it is, and no plural association is, does an update that calls no hook change the key of a row of
the model's table in a store; otherwise every such update leaves every row its key. -/
theorem keys_kept_iff {configuration : Configuration} {adapters : Dictionary (Adapter σ)}
    {hooks : Dictionary (Hooks σ)} {start finish : Run σ}
    (built : result (build configuration adapters hooks) start = (.ok registry, finish)) {identity : String}
    (found : registry.model? identity = some registered) (inStore : registered.adapter = place.adapter) :
    ((∀ now raw values, registered.model.readChanges now raw = .ok values →
        registered.model.primaryKey ∉ Dictionary.names values) ↔
      registered.model.primaryKey ∉ registered.model.stamped) ∧
    ∃ column, registered.columns.column registered.model.primaryKey = .ok column ∧
      ((∀ (query : Description σ) (now : Instant) (run : Run σ) (table : Table), query.model = identity →
          query.method = .update → registered.Quiet query.options →
          (place.part run.environment).table registered.datastore registered.model.table = .ok table →
          ∃ left, (place.part (result (registry.execute now query) run).2.environment).table
              registered.datastore registered.model.table = .ok left ∧
            Record.SameIn column table.rows left.rows) ↔
        registered.model.primaryKey ∉ registered.model.stamped ∨
          ∃ name ∈ registered.model.stamped, registered.model.Plural name) := by
  have holds := built_of_build built
  have itself : registry.model? registered.model.identity = some registered := by
    rwa [show registered.model.identity = identity from holds.identity_eq found]
  obtain ⟨column, isColumn⟩ := (holds.exists_column_iff found).mpr (holds.valid_of_model? found).primaryKey_mem
  refine ⟨⟨?_, ?_⟩, column, isColumn, ?_⟩
  · intro never stamped
    have read := registered.model.readChanges_empty ⟨0⟩
    exact never _ _ _ read ((Model.primaryKey_mem_names_iff read).mpr stamped)
  · intro unstamped now raw values read
    exact mt (Model.primaryKey_mem_names_iff read).mp unstamped
  · rw [← not_not (a := ∃ name ∈ _, _), ← registered.model.stamped_declares.stores_iff]
    constructor
    · intro keeps
      by_contra stamps
      obtain ⟨stamped, stores⟩ : _ ∧ _ := by simpa only [not_or, not_not] using stamps
      -- a row with the key 1, and an update at a time that is not 1
      let rows : Table := { definition := { table := registered.model.table, primaryKey := column }
                            rows := [[(column, .ofNat 1)]] }
      let run : Run σ := { start with
        environment := place.put start.environment
          ((place.part start.environment).put registered.datastore registered.model.table rows) }
      have stored : (place.part run.environment).table registered.datastore registered.model.table = .ok rows := by
        rw [place.part_put, Store.table_put_self]
      obtain ⟨left, isLeft, changed⟩ := touch_not_sameIn holds itself inStore isColumn stamped stores stored rfl
      obtain ⟨_, isLeftToo, kept⟩ := keeps registered.model.touch ⟨0⟩ run rows
        (holds.identity_eq found) rfl (.inl rfl) stored
      obtain rfl := Except.ok.inj (isLeft.symm.trans isLeftToo)
      exact changed kept
    · intro spares query now run table isModel updates quiet stored
      subst isModel
      exact update_sameIn holds found inStore quiet updates isColumn spares stored now

/-- Users whose key is the time of their last update. -/
def keyedByTime : Configuration where
  datastores := [("default", { adapter := "memory" })]
  models := [
    { identity := "user", datastore := "default"
      attributes := [("id", { Attribute.ofType .number with autoUpdatedAt := true }),
        ("name", .ofType .string)] }]

/-- A registry is built of users whose key is the time of their last update, and updates change it. -/
theorem keyedByTime_changed :
    ∃ (registry : Registry Store) (start finish run : Run Store) (registered : RegisteredModel Store)
      (query : Description Store) (now : Instant) (table left : Table),
      result (build keyedByTime [("memory", Store.Place.alone.adapter)] []) start = (.ok registry, finish) ∧
      registry.model? "user" = some registered ∧ registered.adapter = Store.Place.alone.adapter ∧
      query.method = .update ∧ registered.Quiet query.options ∧
      run.environment.table "default" "user" = .ok table ∧
      (result (registry.execute now query) run).2.environment.table "default" "user" = .ok left ∧
      ¬Record.SameIn "id" table.rows left.rows := by
  let start : Run Store := { environment := { keys := { draw := toString } } }
  let built := result (build keyedByTime [("memory", Store.Place.alone.adapter)] []) start
  have users {registry : Registry Store} (isBuilt : built.1 = .ok registry) :
      ∃ registered, registry.model? "user" = some registered ∧
        registered.adapter = Store.Place.alone.adapter ∧ registered.datastore = "default" ∧
        registered.model.table = "user" ∧ registered.columns.column registered.model.primaryKey = .ok "id" ∧
        registered.model.primaryKey = "id" ∧ registered.model.stamped = ["id"] ∧
        "id" ∈ Dictionary.names registered.model.stored := by
    obtain rfl := Except.ok.inj isBuilt
    exact ⟨_, rfl, rfl, rfl, rfl, rfl, rfl, rfl, by decide⟩
  obtain ⟨registry, isBuilt⟩ : ∃ registry, built.1 = .ok registry := ⟨_, rfl⟩
  obtain ⟨registered, found, inStore, datastore, name, isColumn, key, stamped, isStored⟩ := users isBuilt
  have builds : built = (.ok registry, built.2) := Prod.ext isBuilt rfl
  obtain ⟨-, column, isKey, exactly⟩ := keys_kept_iff builds found inStore
  obtain rfl := Except.ok.inj (isKey.symm.trans isColumn)
  have changes := mt exactly.mp (by simp [key, stamped, Model.Plural, isStored])
  push Not at changes
  obtain ⟨query, now, run, table, isModel, updates, quiet, stored, changed⟩ := changes
  have mutation : query.method.isMutation = true := by
    rw [updates]
    rfl
  rw [← isModel] at found
  obtain ⟨left, isLeft, -⟩ := execute_mutation_cases found inStore quiet mutation stored now
  have differs := changed left isLeft
  rw [datastore, name] at stored isLeft
  exact ⟨registry, start, _, run, registered, query, now, table, left, builds, isModel ▸ found, inStore, updates,
    quiet, stored, isLeft, differs⟩

end Registry

end RecordMapper
