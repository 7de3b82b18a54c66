import RecordMapper.Proofs.Execution.Associations
import RecordMapper.Proofs.Execution.Populating

/-! # Omissions of associations

Before a query is put to a store, an omission is written as a selection of everything else. That is not done
for the criteria of an association: a join carries their selection, and a store shows everything without one.
So an omission among the criteria of an association is ignored, and every record that is embedded is the whole
of its row. The omission is honoured only where the rows hold nothing that is omitted.
-/

namespace RecordMapper

open Attempt Results

variable {σ : Type}

/-- A row holds a value that is read as the one of a name. -/
def Columns.Holds (columns : Columns) (row : Record) (name : String) (value : Json) : Prop :=
  ∃ column, (column, value) ∈ row ∧ columns.nameOf column = name

/-- A record shows the whole of a row. -/
def Columns.ShowsWhole (columns : Columns) (row record : Record) : Prop :=
  ∀ name value, Dictionary.get? record name = some value ↔ columns.Holds row name value

/-- A plural association is populated with criteria that carry an omission; its records refer back through an
attribute. -/
structure Registry.Omitting (registry : Registry σ) (parent : RegisteredModel σ) (populate : String × Json)
    (child : RegisteredModel σ) (via : String) (criteria : Criteria) : Prop where
  kind : ∃ target, parent.model.kind? populate.1 = some (.collection target (some via)) ∧
    registry.model? target = some child
  read : Criteria.read child.model .find (Description.subcriteria? populate.2) = .ok criteria
  omits : RawCriteria.part (Description.subcriteria? populate.2) "omit" ≠ none

/-- No record has an attribute that is omitted, apart from the one that refers back. -/
def Honours (omission : List String) (via : String) (records : List Record) : Prop :=
  ∀ record ∈ records, ∀ name ∈ omission, name ≠ via → Dictionary.get? record name = none

/-- No row holds anything that is omitted, apart from what refers back. -/
def Columns.LacksOmitted (columns : Columns) (omission : List String) (via : String) (rows : List Record) : Prop :=
  ∀ row ∈ rows, ∀ name ∈ omission, name ≠ via → ∀ value, ¬columns.Holds row name value

/-- Of the rows of a model, those that criteria select among the ones that hold a key; without a key none. -/
def RegisteredModel.Referring (child : RegisteredModel σ) (via : String) (criteria : Criteria)
    (children : List Record) : Option Json → List Record → Prop
  | none, rows => rows = []
  | some key, rows => ∃ renamed, (criteria.referring via key).rename child.columns.column = .ok renamed ∧
      renamed.select children = rows

/-- A value holds what is read of the rows that the criteria of an association select for a key. Each of them is
shown as a whole, so that the omission is honoured exactly if the rows hold nothing that is omitted. -/
def RegisteredModel.ShowsOmitted (child : RegisteredModel σ) (via : String) (criteria : Criteria)
    (children : List Record) (key : Option Json) (value : Json) : Prop :=
  ∃ rows found, value = .list (found.map .record) ∧ child.Referring via criteria children key rows ∧
    List.Forall₂ child.columns.ShowsWhole rows found ∧
    (Honours criteria.omission via found ↔ child.columns.LacksOmitted criteria.omission via rows)

/-- Records are read from the rows that a query selects, one by one, and under the name of an association each
of them shows what is omitted. The key is that of the row, unless some association shadows it. -/
def Registry.IgnoresOmission (registered child : RegisteredModel σ) (place : Store.Place σ) (environment : σ)
    (physical : PhysicalQuery) (associations : List String) (name via : String) (criteria : Criteria)
    (records : List Record) : Prop :=
  ∃ rows children column, (place.part environment).rows registered.datastore physical.table = .ok rows ∧
    (place.part environment).rows registered.datastore child.model.table = .ok children ∧
    registered.columns.column registered.model.primaryKey = .ok column ∧
    List.Forall₂ (fun row record => ∃ held value,
        (¬registered.columns.Shadowed associations registered.model.primaryKey → held = Dictionary.get? row column) ∧
        Dictionary.get? record name = some value ∧
        child.ShowsOmitted via criteria children (Json.present? held) value)
      (physical.criteria.select rows) records

/-- Records that show whole rows honour an omission exactly if the rows hold nothing that is omitted. -/
theorem honours_iff {columns : Columns} {rows found : List Record} {omission : List String} {via : String}
    (whole : List.Forall₂ columns.ShowsWhole rows found) :
    Honours omission via found ↔ columns.LacksOmitted omission via rows := by
  induction whole with
  | nil => exact iff_of_true nofun nofun
  | @cons row record rows found shows _ ih =>
    unfold Honours Columns.LacksOmitted at ih ⊢
    rw [List.forall_mem_cons, List.forall_mem_cons, ih]
    refine and_congr_left fun _ => forall₃_congr fun name _ _ => ?_
    rw [Option.eq_none_iff_forall_ne_some]
    exact forall_congr' fun value => not_congr (shows name value)

namespace Registry

variable {registry : Registry σ} {registered child : RegisteredModel σ} {place : Store.Place σ}
  {environment : σ} {verified : Bool}

/-- Rows that are embedded are read as a whole. -/
theorem showsWhole_of_raiseChild {rows found : List Record}
    (read : rows.mapM (child.raiseChild verified) = .ok found) :
    List.Forall₂ child.columns.ShowsWhole rows found := by
  refine (mapM_eq_ok_iff_forall₂.mp read).imp fun row record isRead name value => ?_
  unfold RegisteredModel.raiseChild at isRead
  obtain ⟨raised, isRaised, isRead⟩ := bind_eq_ok.mp isRead
  obtain ⟨rfl, -⟩ := RegisteredModel.verified_eq_ok.mp isRead
  exact Columns.get?_raise (mapError_eq_ok.mp isRaised)

/-- What the join of an association without a selection embeds shows whole rows. -/
theorem showsOmitted_of_embedded {parent : RegisteredModel σ} (isFound : registry.model? child.identity = some child)
    {via name parentKey childKey : String} (refers : child.columns.column via = .ok childKey)
    {criteria renamed : Criteria} (showsAll : criteria.selection = none)
    (lowered : (LogicalQuery.showing via criteria).rename child.columns.column = .ok renamed) {join : Join}
    (isJoin : join = { field := name, parentKey, childTable := child.model.table, childKey
                       childModel := child.identity, collection := true, criteria := some renamed })
    {children : List Record} {row : Record} {value : Json}
    (embedded : registry.embedded parent verified join (some (join.embed children row)) = .ok value) :
    child.ShowsOmitted via criteria children (Json.present? (Dictionary.get? row parentKey)) value := by
  subst isJoin
  have unselected : renamed.selection = none := by
    obtain ⟨-, -, selection, -⟩ := Criteria.rename_eq_ok.mp lowered
    rw [LogicalQuery.selection_showing, showsAll] at selection
    exact (Except.ok.inj selection).symm
  cases holds : Json.present? (Dictionary.get? row parentKey) with
  | none =>
    rw [Join.embed_of_absent holds] at embedded
    obtain ⟨found, none, rfl⟩ := @embedded_rows _ _ _ child _ _ isFound rfl [] _ embedded
    obtain rfl := pure_eq_ok.mp none
    exact ⟨[], [], rfl, rfl, .nil, honours_iff .nil⟩
  | some key =>
    rw [Join.embed_plural rfl rfl holds, ← Criteria.select_restricted] at embedded
    obtain ⟨found, isRead, rfl⟩ := embedded_rows isFound rfl embedded
    rw [unselected] at isRead
    have whole := showsWhole_of_raiseChild ((congrArg (List.mapM _) (List.map_id _)).symm.trans isRead)
    exact ⟨_, found, rfl, ⟨_, Criteria.rename_referring lowered refers key, rfl⟩, whole, honours_iff whole⟩

/-- The join of an association with an omission shows everything. -/
theorem Omitting.selection_eq_none {parent : RegisteredModel σ} {populate : String × Json} {via : String}
    {criteria : Criteria} (omitting : registry.Omitting parent populate child via criteria) :
    criteria.selection = none :=
  (Criteria.readFrom_of_read omitting.read).choice.resolve_right omitting.omits

variable {configuration : Configuration} {query : Description σ} {entries : Dictionary Json}
  {populates : Dictionary (Option Criteria)} {physical : PhysicalQuery} {name via : String} {raw : Json}
  {criteria : Criteria}

/-- The join of an association with an omission reads the key of a row, and what it embeds shows whole rows. -/
theorem Omitting.showsOmitted (built : Built configuration registry)
    (omitting : registry.Omitting registered (name, raw) child via criteria) {populate : String × Option Criteria}
    (compiled : Description.compilePopulate registry registered.model (name, raw) = .ok populate) {join : Join}
    (made : LogicalQuery.join registry registered populate = .ok join) :
    join.childTable = child.model.table ∧
      registered.columns.column registered.model.primaryKey = .ok join.parentKey ∧
      ∀ children row value,
        registry.embedded registered verified join (some (join.embed children row)) = .ok value →
          child.ShowsOmitted via criteria children (Json.present? (Dictionary.get? row join.parentKey)) value := by
  obtain ⟨target, kind, isChild⟩ := omitting.kind
  obtain ⟨isName, model, associated, given⟩ := Description.compilePopulate_eq_ok compiled
  obtain ⟨rfl, -⟩ := LogicalQuery.associated_child associated (.inr ⟨_, kind⟩) isChild
  obtain ⟨populated, subcriteria⟩ := populate
  obtain rfl : populated = name := isName
  obtain rfl : subcriteria = some criteria := by
    rcases given with ⟨_, rfl, read⟩ | ⟨-, _, noop⟩
    · exact congrArg some (Except.ok.inj (read.symm.trans omitting.read))
    · cases noop.symm.trans omitting.read
  cases LogicalQuery.joined_of_join made with
  | singular isModel => cases isModel.symm.trans kind
  | @plural _ _ _ _ other _ _ isKind isTarget isKey refers lowered =>
    obtain ⟨rfl, rfl⟩ : _ = target ∧ _ = via := by simpa using isKind.symm.trans kind
    obtain rfl : child = other := Option.some.inj (isChild.symm.trans isTarget)
    have isFound : registry.model? child.identity = some child := by
      rw [built.identity_eq isChild, isChild]
    exact ⟨rfl, isKey, fun children row value embedded =>
      showsOmitted_of_embedded isFound refers omitting.selection_eq_none lowered rfl embedded⟩

/-- What a store finds for a query is read as records. -/
def FoundAs (registry : Registry σ) (registered : RegisteredModel σ) (place : Store.Place σ) (environment : σ)
    (physical : PhysicalQuery) (records : List Record) : Prop :=
  ∃ answer, (place.part environment).find registered.datastore physical = .ok answer ∧
    registry.materialize registered physical.joins physical.options answer = .ok records

/-- The rows that a store finds for a query are read as records that show what an association omits. -/
theorem ignoresOmission_of_found (built : Built configuration registry)
    (found : registry.model? query.model = some registered)
    (compiled : entries.mapM (Description.compilePopulate registry registered.model) = .ok populates)
    (made : populates.mapM (LogicalQuery.join registry registered) = .ok physical.joins)
    (distinct : (Dictionary.names entries).Nodup) (member : (name, raw) ∈ entries)
    (omitting : registry.Omitting registered (name, raw) child via criteria) {records : List Record}
    (isFound : registry.FoundAs registered place environment physical records) :
    IgnoresOmission registered child place environment physical (Dictionary.names entries) name via criteria
      records := by
  have fields := fields_of_mapM compiled made
  obtain ⟨rows, joined, stored, isJoined, each⟩ := (find_read_iff (fields ▸ distinct)).mp isFound
  rw [← fields, ← Store.joins_of_children isJoined] at distinct
  obtain ⟨before, later, rfl⟩ := List.append_of_mem member
  obtain ⟨subcriteria, join, children, front, back, isPopulate, isMade, isChildren, rfl, frontFields⟩ :=
    exists_join_middle compiled made isJoined
  obtain ⟨isTable, isKey, shows⟩ := omitting.showsOmitted built isPopulate isMade
  have readsKey : registered.model.joinAttribute name = registered.model.primaryKey := by
    obtain ⟨target, kind, -⟩ := omitting.kind
    rw [Model.joinAttribute, kind]
  have childStored : (place.part environment).rows registered.datastore join.childTable = .ok children := by
    obtain ⟨_, -, isEntry⟩ := (mem_mapM_iff isChildren).mp (List.mem_singleton_self _)
    obtain ⟨_, isRows, same⟩ := map_eq_ok.mp isEntry
    obtain ⟨rfl, rfl⟩ := Prod.mk.inj same
    exact isRows
  refine ⟨rows, children, join.parentKey, stored, isTable ▸ childStored, isKey, each.imp fun row record readAs => ?_⟩
  obtain ⟨value, embedded, held⟩ := readAs.get?_field distinct
  rw [(LogicalQuery.joined_of_join isMade).field_eq] at held
  refine ⟨_, value, fun clear => ?_, held, shows _ _ _ embedded⟩
  rw [← readsKey] at clear
  have reads := parentKey_notMem built found isMade clear
  refine Join.get?_foldl_attach (fun inFront => reads ?_) row
  rw [frontFields] at inFront
  obtain ⟨entry, isBefore, same⟩ := List.mem_map.mp inFront
  exact List.mem_map.mpr ⟨entry, List.mem_append_left _ isBefore, same⟩

/-- A query with associations that succeeds is a find of what a store finds for it, or a stream of what a store
finds for each batch, unless it asks for nothing. -/
theorem found_or_streamed (built : Built configuration registry)
    (found : registry.model? query.model = some registered) (inStore : registered.adapter = place.adapter)
    (given : query.populates = some entries) {now : Instant} {run after : Run σ} {outcome : Outcome}
    (done : result (registry.execute now query) run = (.ok outcome, after)) :
    (∃ details, query.compile registry now = .error (.noop details) ∧
        outcome = .noop query.method query.options ∧ after = run) ∨
      ∃ compiled physical, query.compile registry now = .ok compiled ∧
        compiled.lower registered registry = .ok physical ∧
        ((query.method = .find ∧ ∃ records, outcome = .records records ∧
            registry.FoundAs registered place run.environment physical records) ∨
          query.method = .stream ∧ ∃ iteratee calls, compiled.iteratee = some iteratee ∧
            after.calls = run.calls ++ calls ∧
            ∀ delivery ∈ calls.filterMap Event.delivery?, ∃ earlier environment batch,
              OfBatch registry registered physical iteratee run.environment earlier environment batch delivery ∧
              registry.FoundAs registered place environment (physical.batchAfter earlier) batch) := by
  rcases execute_eq_ok found done with ⟨details, noop, rfl, rfl⟩ | ⟨compiled, isCompiled⟩
  · exact .inl ⟨details, noop, rfl, rfl⟩
  obtain ⟨_, same, made⟩ := Description.compile_eq_ok.mp isCompiled
  obtain rfl := Option.some.inj (found.symm.trans same)
  have findOrStream : query.method = .find ∨ query.method = .stream := by
    have takes := (Description.checkParts_eq_ok.mp made.parts).2.2.2.2.1 (by rw [given]; rfl)
    revert takes
    cases query.method <;> simp [Method.takesPopulates]
  rw [execute_of_compile found isCompiled] at done
  rcases findOrStream with method | method
  · have isFind := made.method_eq.trans method
    rw [method, if_neg (by decide), perform_find isFind] at done
    obtain ⟨physical, answer, records, isLowered, isFound, materialized, rfl, -⟩ :=
      (fetch_find_eq_ok inStore isFind).mp done
    rw [← (LogicalQuery.lower_eq_ok.mp isLowered).options_eq] at materialized
    exact .inr ⟨compiled, physical, isCompiled, isLowered,
      .inl ⟨method, records, rfl, answer, isFound, materialized⟩⟩
  · obtain ⟨iteratee, isIteratee, -⟩ := compileIteratee_stream method made.iteratee
    -- a stream writes nothing, so that it can be lowered
    obtain ⟨physical, isLowered⟩ : ∃ physical, compiled.lower registered registry = .ok physical := by
      rw [LogicalQuery.exists_lower_iff built found isCompiled, written_of_stream made.parts method]
      exact fun name member => by cases member
    rw [if_pos method] at done
    obtain ⟨⟨⟩, between, streamed, ended⟩ := result_bind_eq_ok.mp done
    obtain ⟨-, rfl⟩ := result_pure_eq_ok.mp ended
    obtain ⟨batches, calls, environment, last, delivered, ends, called⟩ := stream_ends isLowered isIteratee streamed
    refine .inr ⟨compiled, physical, isCompiled, isLowered, .inr ⟨method, iteratee, calls ++ last, isIteratee,
      by rw [called, List.append_assoc], fun delivery isDelivery => ?_⟩⟩
    obtain ⟨earlier, environment, batch, ofBatch⟩ := exists_ofBatch delivered ends delivery isDelivery
    obtain ⟨left, reads⟩ := ofBatch.reads
    exact ⟨earlier, environment, batch, ofBatch, found_of_reads inStore reads⟩

/-- Omissions of associations are ignored. A find or a stream that populates a plural association with criteria
that carry an omission, and that succeeds, answers with records or delivers records that hold under the name of
the association the whole of the rows that the criteria select, so that the omission is honoured only if these
hold nothing that is omitted. A find reads the rows in the environment that it starts in, and a stream each batch
in the environment that the iteratee left behind. -/
theorem omission_honoured_iff {adapters : Dictionary (Adapter σ)} {hooks : Dictionary (Hooks σ)}
    {start finish : Run σ}
    (built : result (build configuration adapters hooks) start = (.ok registry, finish))
    (found : registry.model? query.model = some registered) (inStore : registered.adapter = place.adapter)
    (given : query.populates = some entries) (distinct : (Dictionary.names entries).Nodup)
    (member : (name, raw) ∈ entries) (omitting : registry.Omitting registered (name, raw) child via criteria)
    {now : Instant} {run after : Run σ} {outcome : Outcome}
    (done : result (registry.execute now query) run = (.ok outcome, after)) :
    (∃ details, query.compile registry now = .error (.noop details) ∧
        outcome = .noop query.method query.options ∧ after = run) ∨
      ∃ compiled physical, query.compile registry now = .ok compiled ∧
        compiled.lower registered registry = .ok physical ∧
        ((query.method = .find ∧ ∃ records, outcome = .records records ∧
            IgnoresOmission registered child place run.environment physical (Dictionary.names entries) name via
              criteria records) ∨
          query.method = .stream ∧ ∃ iteratee calls, compiled.iteratee = some iteratee ∧
            after.calls = run.calls ++ calls ∧
            ∀ delivery ∈ calls.filterMap Event.delivery?, ∃ earlier environment batch,
              OfBatch registry registered physical iteratee run.environment earlier environment batch delivery ∧
              IgnoresOmission registered child place environment (physical.batchAfter earlier)
                (Dictionary.names entries) name via criteria batch) := by
  have isBuilt := built_of_build built
  rcases found_or_streamed isBuilt found inStore given done with
    noop | ⟨compiled, physical, isCompiled, isLowered, each⟩
  · exact .inl noop
  obtain ⟨_, same, made⟩ := Description.compile_eq_ok.mp isCompiled
  obtain rfl := Option.some.inj (found.symm.trans same)
  have populates := made.populates
  rw [compilePopulates_eq, given, Option.getD_some] at populates
  have joins := (LogicalQuery.lower_eq_ok.mp isLowered).joins
  -- a query for a batch has the joins of the whole
  have ignores (asked : PhysicalQuery) (sameJoins : asked.joins = physical.joins) {environment : σ}
      {records : List Record} (isFound : registry.FoundAs registered place environment asked records) :
      IgnoresOmission registered child place environment asked (Dictionary.names entries) name via criteria
        records :=
    ignoresOmission_of_found isBuilt found populates (sameJoins ▸ joins) distinct member omitting isFound
  refine .inr ⟨compiled, physical, isCompiled, isLowered, ?_⟩
  rcases each with ⟨find, records, isRecords, isFound⟩ | ⟨stream, iteratee, calls, isIteratee, called, each⟩
  · exact .inl ⟨find, records, isRecords, ignores physical rfl isFound⟩
  · refine .inr ⟨stream, iteratee, calls, isIteratee, called, fun delivery isDelivery => ?_⟩
    obtain ⟨earlier, environment, batch, ofBatch, isFound⟩ := each delivery isDelivery
    exact ⟨earlier, environment, batch, ofBatch, ignores (physical.batchAfter earlier) rfl isFound⟩

/-- Users with their pets, which have names. -/
def namedPets : Configuration where
  datastores := [("default", { adapter := "memory" })]
  models := [
    { identity := "user", datastore := "default"
      attributes := [("id", .ofType .number), ("pets", .hasMany "pet" "owner")] },
    { identity := "pet", datastore := "default"
      attributes := [("id", .ofType .number), ("name", .ofType .string), ("owner", .belongsTo "user")] }]

/-- Asks for anything but names. -/
def withoutNames : Json :=
  .record [("omit", .list [.text "name"])]

/-- A find of all users with their pets, without the names of these. -/
def findNameless : Description Store where
  method := .find
  model := "user"
  populates := some [("pets", withoutNames)]

/-- A pet that has a name. -/
def rex : Record :=
  [("id", .ofNat 1), ("name", .text "Rex"), ("owner", .ofNat 1)]

/-- A user is found with its pet and the name of that, although it is omitted. -/
theorem findNameless_ignored :
    ∃ (registry : Registry Store) (start finish run after : Run Store) (registered child : RegisteredModel Store)
      (physical : PhysicalQuery) (criteria : Criteria),
      result (build namedPets [("memory", Store.Place.alone.adapter)] []) start = (.ok registry, finish) ∧
      registry.model? "user" = some registered ∧ registry.model? "pet" = some child ∧
      registry.Omitting registered ("pets", withoutNames) child "owner" criteria ∧ criteria.omission = ["name"] ∧
      run.environment.rows "default" "user" = .ok [[("id", .ofNat 1)]] ∧
      run.environment.rows "default" "pet" = .ok [rex] ∧
      result (registry.execute ⟨0⟩ findNameless) run =
        (.ok (.records [[("id", .ofNat 1), ("pets", .list [.record rex])]]), after) ∧
      IgnoresOmission registered child .alone run.environment physical ["pets"] "pets" "owner" criteria
        [[("id", .ofNat 1), ("pets", .list [.record rex])]] ∧
      ¬Honours criteria.omission "owner" [rex] := by
  let start : Run Store := { environment := { keys := { draw := toString } } }
  let built := result (build namedPets [("memory", Store.Place.alone.adapter)] []) start
  let userTable : Table := { definition := { table := "user", primaryKey := "id" }, rows := [[("id", .ofNat 1)]] }
  let petTable : Table := { definition := { table := "pet", primaryKey := "id" }, rows := [rex] }
  let run : Run Store :=
    { environment := (built.2.environment.put "default" "user" userTable).put "default" "pet" petTable }
  have facts {registry : Registry Store} (isBuilt : built.1 = .ok registry) :
      ∃ registered child, registry.model? findNameless.model = some registered ∧
        registered.adapter = Store.Place.alone.adapter ∧ registry.model? "pet" = some child ∧
        registry.Omitting registered ("pets", withoutNames) child "owner" { omission := ["name"] } ∧
        (result (registry.execute ⟨0⟩ findNameless) run).1 =
          .ok (.records [[("id", .ofNat 1), ("pets", .list [.record rex])]]) := by
    obtain rfl := Except.ok.inj isBuilt
    exact ⟨_, _, rfl, rfl, rfl, ⟨⟨"pet", rfl, rfl⟩, by cbv, by decide⟩, by cbv⟩
  obtain ⟨registered, child, found, inStore, isChild, omitting, executed⟩ := facts rfl
  have done : result (Registry.execute _ ⟨0⟩ findNameless) run = (.ok (.records _), _) := Prod.ext executed rfl
  rcases omission_honoured_iff (show built = _ from rfl) found inStore rfl (by decide) (List.mem_singleton_self _)
    omitting done with
    ⟨details, -, none, -⟩ | ⟨compiled, physical, -, -, ⟨-, records, same, ignored⟩ | ⟨isStream, -⟩⟩
  · cases none
  · obtain rfl := Outcome.records.inj same
    have named : ¬Honours ["name"] "owner" [rex] := by
      intro honours
      cases honours rex (List.mem_singleton_self _) "name" (List.mem_singleton_self _) (by decide)
    exact ⟨_, start, _, run, _, registered, child, physical, _, rfl, found, isChild, omitting, rfl, rfl, rfl, done,
      ignored, named⟩
  · cases isStream

end Registry

end RecordMapper
