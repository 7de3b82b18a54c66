import RecordMapper.Proofs.Execution.Asking
import RecordMapper.Proofs.Execution.References

/-! # References that lead nowhere

A singular association holds the key of a record. It is populated with the first row of its model that holds
this key, and with null if there is none. The record is verified after that. So a reference that leads nowhere
is read as null if the association is not required, and if it is, then the record does not fit its model any
more and the find fails, although it succeeds without the association.
-/

namespace RecordMapper

open Attempt Results

variable {σ : Type}

namespace Registry

variable {registry : Registry σ} {registered child : RegisteredModel σ}

/-! ## Finds with a singular association -/

/-- The rows that a query asks for, of those that the table of its model holds. -/
def rowsAsked (registry : Registry σ) (registered : RegisteredModel σ) (now : Instant) (query : Description σ)
    (rows : List Record) : List Record :=
  match query.compile registry now with
  | .error _ => []
  | .ok compiled =>
    match compiled.lower registered registry with
    | .error _ => []
    | .ok physical => physical.criteria.select rows

/-- A lowered query has a singular association besides another one. It asks for the same rows, shows the column of
the association besides the others, and joins what is referred to. -/
structure Referring (registered child : RegisteredModel σ) (name : String) (physical referring : PhysicalQuery)
    (join : Join) : Prop where
  table_eq : referring.table = registered.model.table
  options_eq : referring.options = physical.options
  joins_eq : referring.joins = [join]
  select_eq : ∀ rows, referring.criteria.select rows = physical.criteria.select rows
  selects_eq : ∀ column, Criteria.selects referring.criteria.selection column =
    (Criteria.selects physical.criteria.selection column || column == join.parentKey)
  field : join.field = name
  singular : join.collection = false
  childTable : join.childTable = child.model.table
  childModel : join.childModel = child.identity
  parentKey : registered.columns.column name = .ok join.parentKey
  childKey : child.columns.column child.model.primaryKey = .ok join.childKey

variable {place : Store.Place σ} {query : Description σ} {now : Instant} {compiled : LogicalQuery σ}
  {physical referring : PhysicalQuery} {join : Join} {run : Run σ} {configuration : Configuration}
  {name target : String} {declared : Attribute} {raw : Json} {rows asked children bare : List Record}
  {verified : Bool}

/-- What a row refers to is found by the join of the association. -/
theorem Referring.referred?_eq (refers : Referring registered child name physical referring join) (row : Record) :
    registered.referred? child name children row = row.referred? join.parentKey join.childKey children := by
  rw [RegisteredModel.referred?, refers.parentKey, refers.childKey]

/-- A row that is read without a singular association is read with it as what the row refers to allows. -/
theorem Referring.exists_materializeRow_eq (refers : Referring registered child name physical referring join)
    (holds : Built configuration registry) (found : registry.model? query.model = some registered)
    (lowered : compiled.LoweredTo registered registry physical)
    (isAttribute : registered.model.attribute? name = some declared) (isModel : declared.kind = .model target)
    (isChild : registry.model? target = some child) (notKey : name ≠ registered.model.primaryKey)
    (clear : ¬registered.columns.Shadowed [name] registered.model.primaryKey) {row bare : Record}
    (inOrder : Dictionary.Sorted row)
    (without : registry.ReadAs registered [] physical.criteria.selection verified row bare) :
    ∃ rest, registered.AgreesBeside name bare rest ∧
      registry.materializeRow registered [join] verified
          (Record.project referring.criteria.selection [join.field] (Join.attach row (join, children))) =
        registered.withReferred child name declared verified rest (registered.referred? child name children row) := by
  have faithful : registered.columns.Faithful :=
    holds.columns_eq found ▸ Columns.faithful_ofModel (holds.valid_of_model? found)
  have joinsChild : registry.model? join.childModel = some child := by
    rw [refers.childModel, holds.identity_eq isChild, isChild]
  obtain ⟨rest, raised, agrees, only⟩ := exists_rest faithful refers.field refers.parentKey
    (fun _ selected => Criteria.exists_of_mem_selection lowered.criteria selected) refers.selects_eq inOrder without
  obtain ⟨_, _, _, _, _, fits⟩ := without
  refine ⟨rest, agrees, ?_⟩
  rw [refers.referred?_eq]
  exact materializeRow_referring (Dictionary.mem_of_get? isAttribute) isModel notKey clear refers.field
    refers.singular joinsChild fits raised agrees only children

/-- A singular association without criteria compiles to one with any criteria. -/
theorem compilePopulate_singular (kind : registered.model.kind? name = some (.model target))
    (isChild : registry.model? target = some child) (together : child.datastore = registered.datastore)
    (plain : Description.subcriteria? raw = none) :
    Description.compilePopulate registry registered.model (name, raw) = .ok (name, some {}) := by
  have associated : Description.associated registry registered.model name none = .ok child.model := by
    simp only [Description.associated, kind, Option.isSome_none, Bool.false_eq_true, if_false, pure_bind, isChild]
    exact if_pos together
  rw [Description.compilePopulate, plain, associated]
  rfl

theorem compilePopulates_singular (kind : registered.model.kind? name = some (.model target))
    (isChild : registry.model? target = some child) (together : child.datastore = registered.datastore)
    (plain : Description.subcriteria? raw = none) :
    [(name, raw)].mapM (Description.compilePopulate registry registered.model) = .ok [(name, some {})] :=
  bind_eq_ok.mpr ⟨_, compilePopulate_singular kind isChild together plain, rfl⟩

/-- A find that is compiled and lowered without a singular association is compiled and lowered with it. -/
theorem exists_referring (holds : Built configuration registry)
    (found : registry.model? query.model = some registered) (find : query.method = .find)
    (alone : query.populates = none) (made : query.CompiledTo registry now registered.model compiled)
    (lowered : compiled.LoweredTo registered registry physical)
    (kind : registered.model.kind? name = some (.model target)) (isChild : registry.model? target = some child)
    (together : child.datastore = registered.datastore) (plain : Description.subcriteria? raw = none) :
    ∃ associated referring join,
      Description.compile { query with populates := some [(name, raw)] } registry now = .ok associated ∧
      associated.lower registered registry = .ok referring ∧
      Referring registered child name physical referring join := by
  obtain ⟨join, isMade, -⟩ :=
    LogicalQuery.exists_join holds found (compilePopulate_singular kind isChild together plain)
  cases LogicalQuery.joined_of_join isMade with
  | plural isKind => cases kind.symm.trans isKind
  | @singular _ _ parentKey childKey _ isKind isTarget isColumn isKey =>
    obtain rfl := AttributeKind.model.inj (Option.some.inj (kind.symm.trans isKind))
    obtain rfl := Option.some.inj (isChild.symm.trans isTarget)
    have criteria := lowered.criteria
    rw [joins_eq_nil_of_alone alone made lowered] at criteria
    obtain ⟨other, renamed, sameRows, shows⟩ := Criteria.exists_rename_showing criteria isColumn
    have associated := @Description.CompiledTo.repopulated _ _ _ _ _ _ made (takesPopulates_of_find find)
      (some [(name, raw)]) [(name, some {})] (compilePopulates_singular kind isChild together plain)
    let join : Join :=
      { field := name, parentKey, childTable := child.model.table, childKey
        childModel := child.identity, collection := false, criteria := some {} }
    refine ⟨_, { physical with joins := [join], criteria := other }, join,
      Description.compile_eq_ok.mpr ⟨registered, found, associated⟩, LogicalQuery.lower_eq_ok.mpr ?_,
      ⟨lowered.table_eq, rfl, rfl, sameRows, shows, rfl, rfl, rfl, rfl, isColumn, isKey⟩⟩
    exact { lowered with joins := bind_eq_ok.mpr ⟨join, isMade, rfl⟩, criteria := renamed }

/-- The rows that a find asks for are read with a singular association if what they refer to can be, unless the
association is required and some row refers to nothing. -/
theorem exists_mapM_referring_iff {step : Record → Except QueryError Record}
    (each : List.Forall₂ (fun row bare => ∃ rest, registered.AgreesBeside name bare rest ∧
      step row = registered.withReferred child name declared verified rest
        (registered.referred? child name children row)) asked bare) :
    (∃ full, asked.mapM step = .ok full) ↔ registered.ReadsReferred child name verified children asked ∧
      ¬(declared.required = true ∧ verified = true ∧ registered.Dangles child name children asked) := by
  have stepped (row : Record) (member : row ∈ asked) : (∃ record, step row = .ok record) ↔
      (∀ referred, registered.referred? child name children row = some referred →
          ∃ record, child.raiseChild verified referred = .ok record) ∧
        (declared.required = true → verified = true → registered.referred? child name children row ≠ none) := by
    obtain ⟨_, -, rest, -, same⟩ := exists_mem_of_forall₂ (List.Forall₂.flip each) row member
    rw [same, RegisteredModel.exists_withReferred_iff]
  rw [exists_mapM_eq_ok_iff]
  constructor
  · intro read
    refine ⟨fun row member => ((stepped row member).mp (read row member)).1, ?_⟩
    rintro ⟨required, isVerified, row, member, dangles⟩
    exact ((stepped row member).mp (read row member)).2 required isVerified dangles
  · rintro ⟨readable, allowed⟩ row member
    exact (stepped row member).mpr ⟨readable row member, fun required isVerified dangles =>
      allowed ⟨required, isVerified, row, member, dangles⟩⟩

section

variable (found : registry.model? query.model = some registered) (inStore : registered.adapter = place.adapter)
  (find : query.method = .find) (alone : query.populates = none)
  (isAttribute : registered.model.attribute? name = some declared) (isModel : declared.kind = .model target)
  (isChild : registry.model? target = some child) (together : child.datastore = registered.datastore)
  (clear : ¬registered.columns.Shadowed [name] registered.model.primaryKey)
  (plain : Description.subcriteria? raw = none)
  (stored : (place.part run.environment).rows registered.datastore registered.model.table = .ok rows)
  (childrenStored : (place.part run.environment).rows registered.datastore child.model.table = .ok children)
  (inOrder : ∀ row ∈ rows, Dictionary.Sorted row) (isAsked : registry.rowsAsked registered now query rows = asked)
  (isVerified : (!query.options.skipVerification) = verified)

include found inStore find alone isAttribute isModel isChild together clear plain stored childrenStored inOrder
  isAsked isVerified

/-- A find that succeeds without a singular association reads with it the rows that it asks for, each as what the
row refers to allows. -/
theorem exists_reading (holds : Built configuration registry) {bareAfter : Run σ}
    (done : result (registry.execute now query) run = (.ok (.records bare), bareAfter)) :
    ∃ step : Record → Except QueryError Record,
      (result (registry.execute now { query with populates := some [(name, raw)] }) run).1 =
          (asked.mapM step).map .records ∧
        List.Forall₂ (fun row bare => ∃ rest, registered.AgreesBeside name bare rest ∧
          step row = registered.withReferred child name declared verified rest
            (registered.referred? child name children row)) asked bare := by
  subst isAsked isVerified
  unfold rowsAsked
  rcases execute_eq_ok found done with ⟨details, noop, nothing, -⟩ | ⟨compiled, compilation⟩
  · rw [find] at nothing
    obtain rfl : bare = [] := Outcome.records.inj nothing
    rw [execute_of_noop_criteria found find noop, noop]
    exact ⟨fun _ => .ok [], rfl, .nil⟩
  obtain ⟨_, same, made⟩ := Description.compile_eq_ok.mp compilation
  obtain rfl := Option.some.inj (found.symm.trans same)
  obtain ⟨physical, records, held, lowered, sameRecords, isStored, without⟩ :=
    (execute_find_alone_iff found inStore find alone made).mp ⟨_, done⟩
  obtain rfl := Outcome.records.inj sameRecords
  obtain rfl := Except.ok.inj (stored.symm.trans isStored)
  have kind : registered.model.kind? name = some (.model target) := by
    rw [Model.kind?, isAttribute, Option.map_some, isModel]
  obtain ⟨associated, referring, join, isCompiled, isLowered, refers⟩ :=
    exists_referring holds found find alone made lowered kind isChild together plain
  have isFound := Store.find_of_join refers.joins_eq (refers.table_eq.symm ▸ stored)
    (refers.childTable.symm ▸ childrenStored)
  have executed := @execute_find_of_found _ _ _ _ { query with populates := some [(name, raw)] } found inStore find _ _
    isCompiled _ isLowered _ _ isFound
  have verifies : referring.options.skipVerification = query.options.skipVerification := by
    rw [refers.options_eq, lowered.options_eq, made.options_eq]
  have notKey : name ≠ registered.model.primaryKey := fun same =>
    primaryKey_notMem holds found (compilePopulates_singular kind isChild together plain)
      (same ▸ List.mem_singleton_self _)
  have sortedRows : ∀ row ∈ physical.criteria.select rows, Dictionary.Sorted row := fun row member =>
    inOrder row (Criteria.mem_of_mem_select member)
  rw [compilation]
  dsimp only
  rw [LogicalQuery.lower_eq_ok.mpr lowered]
  refine ⟨fun row => registry.materializeRow registered [join] (!query.options.skipVerification)
    (Record.project referring.criteria.selection [join.field] (Join.attach row (join, children))), ?_, ?_⟩
  · rw [executed, materialize, refers.joins_eq, verifies, refers.select_eq, List.mapM_map]
    rfl
  · refine ((List.forall₂_and_left _ _).mpr ⟨sortedRows, without⟩).imp fun row bare both => ?_
    obtain ⟨sortedRow, isRead⟩ := both
    exact refers.exists_materializeRow_eq holds found lowered isAttribute isModel isChild notKey clear sortedRow isRead

/-- A find that populates a singular association succeeds whenever it succeeds without, and what the rows refer to
can be read, unless the association is required, the records are verified and some row refers to nothing. Then a
record holds under the name of the association the record of what its row refers to, or null, and agrees otherwise
with what is found without the association. If some row refers to nothing although it has to, but everything that is
referred to can be read, then the find fails because null does not fit. -/
theorem dangling_read_iff {adapters : Dictionary (Adapter σ)} {hooks : Dictionary (Hooks σ)} {start finish : Run σ}
    (built : result (build configuration adapters hooks) start = (.ok registry, finish)) {bareAfter : Run σ}
    (done : result (registry.execute now query) run = (.ok (.records bare), bareAfter)) :
    ((∃ full after, result (registry.execute now { query with populates := some [(name, raw)] }) run =
          (.ok (.records full), after)) ↔
        registered.ReadsReferred child name verified children asked ∧
          ¬(declared.required = true ∧ verified = true ∧ registered.Dangles child name children asked)) ∧
      (∀ full after, result (registry.execute now { query with populates := some [(name, raw)] }) run =
          (.ok (.records full), after) →
        List.Forall₂ (fun row record => child.HoldsReferred name verified record
            (registered.referred? child name children row)) asked full ∧
          List.Forall₂ (registered.AgreesBeside name) bare full) ∧
      (registered.ReadsReferred child name verified children asked → declared.required = true → verified = true →
        registered.Dangles child name children asked →
        (result (registry.execute now { query with populates := some [(name, raw)] }) run).1 =
          .error (.drift registered.identity (.misfit name .null))) := by
  obtain ⟨step, executed, each⟩ := exists_reading found inStore find alone isAttribute isModel isChild together
    clear plain stored childrenStored inOrder isAsked isVerified (built_of_build built) done
  have read {full : List Record} {after : Run σ}
      (populated : result (registry.execute now { query with populates := some [(name, raw)] }) run =
        (.ok (.records full), after)) : asked.mapM step = .ok full := by
    rw [populated] at executed
    obtain ⟨records, isRead, same⟩ := map_eq_ok.mp executed.symm
    rwa [← Outcome.records.inj same]
  refine ⟨?_, fun full after populated => ?_, fun readable required verifies dangles => ?_⟩
  · rw [← exists_mapM_referring_iff each]
    constructor
    · rintro ⟨full, after, populated⟩
      exact ⟨full, read populated⟩
    · rintro ⟨full, isRead⟩
      rw [isRead] at executed
      exact ⟨full, _, Prod.ext executed rfl⟩
  · have steps := mapM_eq_ok_iff_forall₂.mp (read populated)
    constructor
    · refine (forall₂_and steps each).imp fun row record ⟨isRead, _, rest, _, same⟩ => ?_
      exact (RegisteredModel.withReferred_eq_ok (same.symm.trans isRead)).1
    · refine (forall₂_of_common each steps).imp fun bare record ⟨row, ⟨rest, agrees, same⟩, isRead⟩ => ?_
      intro field differs unshadowed
      rw [(RegisteredModel.withReferred_eq_ok (same.symm.trans isRead)).2 field differs,
        agrees field differs unshadowed]
  · cases outcome : asked.mapM step with
    | ok full => exact absurd ⟨required, verifies, dangles⟩ ((exists_mapM_referring_iff each).mp ⟨full, outcome⟩).2
    | error error =>
      obtain ⟨row, member, failed⟩ := exists_of_mapM_eq_error outcome
      obtain ⟨_, -, rest, -, same⟩ := exists_mem_of_forall₂ (List.Forall₂.flip each) row member
      rw [executed, outcome, RegisteredModel.withReferred_eq_error (readable row member) (same.symm.trans failed)]
      rfl

end

/-- Pets with an owner, which may be required. -/
def ownedPets (required : Bool) : Configuration where
  datastores := [("default", { adapter := "memory" })]
  models := [
    { identity := "user", datastore := "default", attributes := [("id", .ofType .number)] },
    { identity := "pet", datastore := "default"
      attributes := [("id", .ofType .number), ("owner", { Attribute.belongsTo "user" with required })]
      inOrder := show decide (["id", "owner"].Pairwise (· < ·)) = true from rfl }]

/-- A user, who has a pet, is created and destroyed. -/
def loseOwner : List (Instant × Description Store) :=
  [(⟨0⟩, { method := .create, model := "user", records := some (.record []) }),
    (⟨1⟩, { method := .create, model := "pet", records := some (.record [("owner", .ofNat 1)]) }),
    (⟨2⟩, { method := .destroy, model := "user", criteria := some (.record []) })]

/-- A find of all pets. -/
def findPets : Description Store where
  method := .find
  model := "pet"

/-- A pet whose owner was destroyed is found with its owner being null, if the owner is not required. -/
theorem lostOwner_null :
    ∃ (registry : Registry Store) (start finish run bareAfter after : Run Store) (full : List Record),
      result (build (ownedPets false) [("memory", Store.Place.alone.adapter)] []) start = (.ok registry, finish) ∧
      run = registry.after finish loseOwner ∧ run.environment.rows "default" "user" = .ok [] ∧
      result (registry.execute ⟨3⟩ findPets) run =
        (.ok (.records [[("id", .ofNat 1), ("owner", .ofNat 1)]]), bareAfter) ∧
      result (registry.execute ⟨3⟩ { findPets with populates := some [("owner", .bool true)] }) run =
        (.ok (.records full), after) ∧
      List.Forall₂ (fun bare record => Dictionary.get? record "id" = Dictionary.get? bare "id" ∧
        Dictionary.get? record "owner" = some .null) [[("id", .ofNat 1), ("owner", .ofNat 1)]] full := by
  let start : Run Store := { environment := { keys := { draw := toString } } }
  let built := result (build (ownedPets false) [("memory", Store.Place.alone.adapter)] []) start
  let pet : Record := [("id", .ofNat 1), ("owner", .ofNat 1)]
  have facts {registry : Registry Store} (isBuilt : built.1 = .ok registry) :
      ∃ registered child declared, registry.model? findPets.model = some registered ∧
        registered.adapter = Store.Place.alone.adapter ∧
        registered.model.attribute? "owner" = some declared ∧ declared.kind = .model "user" ∧
        declared.required = false ∧ registry.model? "user" = some child ∧ child.datastore = registered.datastore ∧
        ¬registered.columns.Shadowed ["owner"] registered.model.primaryKey ∧
        (registry.after built.2 loseOwner).environment.rows registered.datastore registered.model.table =
          .ok [pet] ∧
        (registry.after built.2 loseOwner).environment.rows registered.datastore child.model.table = .ok [] ∧
        (result (registry.execute ⟨3⟩ findPets) (registry.after built.2 loseOwner)).1 = .ok (.records [pet]) ∧
        registry.rowsAsked registered ⟨3⟩ findPets [pet] = [pet] ∧
        registered.referred? child "owner" [] pet = none ∧ "id" ≠ "owner" ∧
        ¬registered.columns.Shadowed ["owner"] "id" ∧
        (registry.after built.2 loseOwner).environment.rows "default" "user" = .ok [] := by
    obtain rfl := Except.ok.inj isBuilt
    exact ⟨_, _, _, rfl, rfl, rfl, rfl, rfl, rfl, rfl, by decide, by cbv, by cbv, by cbv, by cbv, by cbv,
      by decide, by decide, by cbv⟩
  obtain ⟨registry, isBuilt⟩ : ∃ registry, built.1 = .ok registry := ⟨_, rfl⟩
  obtain ⟨registered, child, declared, found, inStore, isAttribute, isModel, optional, isChild, together, clear,
    stored, childrenStored, bareDone, asked, dangles, differs, unshadowed, nobody⟩ := facts isBuilt
  have builds : built = (.ok registry, built.2) := Prod.ext isBuilt rfl
  have inOrder : ∀ row ∈ [pet], Dictionary.Sorted row := by decide
  obtain ⟨succeeds, reads, -⟩ := dangling_read_iff found inStore rfl rfl isAttribute isModel isChild together
    clear (rfl : Description.subcriteria? (.bool true) = none) stored childrenStored inOrder asked rfl builds
    (Prod.ext bareDone rfl)
  have readable : registered.ReadsReferred child "owner" true [] [pet] := by
    intro row member referred refers
    rw [List.mem_singleton.mp member, dangles] at refers
    cases refers
  obtain ⟨full, after, executed⟩ := succeeds.mpr ⟨readable, by simp [optional]⟩
  obtain ⟨holds, agrees⟩ := reads full after executed
  refine ⟨registry, start, built.2, _, _, after, full, builds, rfl, nobody, Prod.ext bareDone rfl, executed, ?_⟩
  cases agrees with
  | cons agreesHere agreesRest =>
    cases agreesRest
    cases holds with
    | cons holdsHere _ =>
      rw [dangles] at holdsHere
      exact .cons ⟨agreesHere "id" differs unshadowed, holdsHere⟩ .nil

/-- A pet whose owner was destroyed can be found, but not with its owner if that is required. -/
theorem lostOwner_unreadable :
    ∃ (registry : Registry Store) (start finish run bareAfter after : Run Store),
      result (build (ownedPets true) [("memory", Store.Place.alone.adapter)] []) start = (.ok registry, finish) ∧
      run = registry.after finish loseOwner ∧
      run.environment.rows "default" "user" = .ok [] ∧
      result (registry.execute ⟨3⟩ findPets) run =
        (.ok (.records [[("id", .ofNat 1), ("owner", .ofNat 1)]]), bareAfter) ∧
      result (registry.execute ⟨3⟩ { findPets with populates := some [("owner", .bool true)] }) run =
        (.error (.drift "pet" (.misfit "owner" .null)), after) := by
  let start : Run Store := { environment := { keys := { draw := toString } } }
  let built := result (build (ownedPets true) [("memory", Store.Place.alone.adapter)] []) start
  have facts {registry : Registry Store} (isBuilt : built.1 = .ok registry) :
      (registry.after built.2 loseOwner).environment.rows "default" "user" = .ok [] ∧
        (result (registry.execute ⟨3⟩ findPets) (registry.after built.2 loseOwner)).1 =
          .ok (.records [[("id", .ofNat 1), ("owner", .ofNat 1)]]) ∧
        (result (registry.execute ⟨3⟩ { findPets with populates := some [("owner", .bool true)] })
            (registry.after built.2 loseOwner)).1 =
          .error (.drift "pet" (.misfit "owner" .null)) := by
    obtain rfl := Except.ok.inj isBuilt
    exact ⟨by cbv, by cbv, by cbv⟩
  obtain ⟨registry, isBuilt⟩ : ∃ registry, built.1 = .ok registry := ⟨_, rfl⟩
  obtain ⟨nobody, bareDone, failed⟩ := facts isBuilt
  have builds : built = (.ok registry, built.2) := Prod.ext isBuilt rfl
  exact ⟨registry, start, built.2, _, _, _, builds, rfl, nobody, Prod.ext bareDone rfl, Prod.ext failed rfl⟩

end Registry

end RecordMapper
