import RecordMapper.Proofs.Execution.Embedding
import RecordMapper.Proofs.Query.Joins

/-! # What populating leaves alone

Associations are embedded in a row under their names, next to its columns. An attribute whose column is called
like a populated association is shadowed: what the row holds under the column is replaced, and taken out again
with what was embedded. Every other attribute keeps its value, and an association whose join does not read such
a column holds what it holds if it is populated alone.
-/

namespace RecordMapper

open Attempt Results

variable {σ : Type}

/-- Whether the column of an attribute is called like one of some associations. -/
def Columns.Shadowed (columns : Columns) (associations : List String) (name : String) : Prop :=
  ∃ association ∈ associations, columns.attribute? association = some name

instance (columns : Columns) (associations : List String) (name : String) :
    Decidable (columns.Shadowed associations name) :=
  inferInstanceAs (Decidable (∃ association ∈ associations, columns.attribute? association = some name))

/-- A record fits a model when it has its key and everything that it holds fits. -/
theorem Model.drift?_eq_none {model : Model} {record : Record} :
    model.drift? record = none ↔
      (∃ key, Json.present? (Dictionary.get? record model.primaryKey) = some key) ∧
        ∀ entry ∈ model.attributes, ∀ value, Dictionary.get? record entry.1 = some value →
          entry.2.fits value = true := by
  unfold drift?
  cases present : Json.present? (Dictionary.get? record model.primaryKey) with
  | none => simp
  | some key =>
    simp only [List.findSome?_eq_none_iff, Option.some.injEq, exists_eq', true_and]
    refine forall₂_congr fun entry _ => ?_
    cases Dictionary.get? record entry.1 with
    | none => simp
    | some value => simp

/-- A record fits when it has the key of one that fits and holds nothing but values of two that fit. -/
theorem Model.drift?_of_parts {model : Model} {first second record : Record} (firstFits : model.drift? first = none)
    (secondFits : model.drift? second = none)
    (key : ∀ value, Dictionary.get? first model.primaryKey = some value →
      Dictionary.get? record model.primaryKey = some value)
    (each : ∀ name value, Dictionary.get? record name = some value →
      Dictionary.get? first name = some value ∨ Dictionary.get? second name = some value) :
    model.drift? record = none := by
  obtain ⟨⟨value, present⟩, firstEach⟩ := drift?_eq_none.mp firstFits
  obtain ⟨-, secondEach⟩ := drift?_eq_none.mp secondFits
  have held := (Option.filter_eq_some_iff.mp present).1
  rw [held] at present
  refine drift?_eq_none.mpr ⟨⟨value, by rw [key value held, present]⟩, fun entry isEntry other isHeld => ?_⟩
  rcases each entry.1 other isHeld with inFirst | inSecond
  · exact firstEach entry isEntry other inFirst
  · exact secondEach entry isEntry other inSecond

namespace Registry

variable {registry : Registry σ} {registered : RegisteredModel σ} {joined : List (Join × List Record)}
  {verified : Bool} {row full bare : Record}

/-- Outside of the fields that are written over a record it stays as it is. -/
theorem get?_insertAll_zip {rest : Record} {fields : List String} {values : List Json} {name : String}
    (outside : name ∉ fields) :
    Dictionary.get? (Dictionary.insertAll rest (fields.zip values)) name = Dictionary.get? rest name := by
  refine Dictionary.get?_insertAll_of_notMem fun member => outside ?_
  obtain ⟨entry, inZip, rfl⟩ := List.mem_map.mp member
  exact (List.of_mem_zip inZip).1

/-- A column of an attribute that is neither populated nor shadowed is outside of the joins. -/
theorem leaves_of_clear {joins : List Join} {name column : String} (outside : name ∉ Join.fields joins)
    (clear : ¬registered.columns.Shadowed (Join.fields joins) name)
    (isName : registered.columns.nameOf column = name) : Join.leaves joins column = true := by
  refine Join.leaves_iff.mpr fun isField => ?_
  unfold Columns.nameOf at isName
  cases claimed : registered.columns.attribute? column with
  | none =>
    rw [claimed, Option.getD_none] at isName
    exact outside (isName ▸ isField)
  | some claiming =>
    rw [claimed, Option.getD_some] at isName
    exact clear ⟨column, isField, isName ▸ claimed⟩

/-- Attributes that are neither populated nor shadowed keep their values. -/
theorem ReadAs.get?_of_clear (withJoins : registry.ReadAs registered joined none verified row full)
    (without : registry.ReadAs registered [] none verified row bare) {name : String}
    (outside : name ∉ Join.fields (joined.map Prod.fst))
    (clear : ¬registered.columns.Shadowed (Join.fields (joined.map Prod.fst)) name) :
    Dictionary.get? full name = Dictionary.get? bare name := by
  obtain ⟨rest, values, raised, -, rfl, -⟩ := withJoins
  obtain ⟨wholeRaised, -⟩ := readAs_nil.mp without
  rw [get?_insertAll_zip outside]
  ext value
  rw [Columns.get?_raise raised, Columns.get?_raise wholeRaised]
  simp only [List.mem_filter]
  constructor
  · rintro ⟨column, ⟨member, -⟩, isName⟩
    exact ⟨column, member, isName⟩
  · rintro ⟨column, member, isName⟩
    exact ⟨column, ⟨member, leaves_of_clear outside clear isName⟩, isName⟩

/-- Under the name of an association stands what its join embeds in the row with the joins before it. -/
theorem ReadAs.get?_field {before later : List (Join × List Record)} {join : Join} {children : List Record}
    {selection : Option (List String)}
    (withJoins : registry.ReadAs registered (before ++ (join, children) :: later) selection verified row full)
    (nodup : (Join.fields ((before ++ (join, children) :: later).map Prod.fst)).Nodup) :
    ∃ value, registry.embedded registered verified join
        (some (join.embed children (before.foldl Join.attach row))) = .ok value ∧
      Dictionary.get? full join.field = some value := by
  obtain ⟨rest, values, -, embedded, rfl, -⟩ := withJoins
  have single : join.field ∉ Join.fields (later.map Prod.fst) := by
    rw [Join.fields, List.map_map, List.map_append, List.map_cons] at nodup
    rw [Join.fields, List.map_map]
    exact (List.nodup_cons.mp (List.nodup_append.mp nodup).2.1).1
  obtain ⟨value, isValue, inZip⟩ := exists_zip_of_mapM embedded (List.mem_append_right before (List.mem_cons_self ..))
  rw [Join.get?_foldl_attach_field single] at isValue
  refine ⟨value, isValue, ?_⟩
  generalize before ++ (join, children) :: later = joined at nodup embedded inZip ⊢
  have length : (Join.fields (joined.map Prod.fst)).length ≤ values.length := by
    refine Nat.le_of_eq ?_
    rw [length_of_mapM embedded, Join.fields, List.length_map, List.length_map]
  have distinct : (((Join.fields (joined.map Prod.fst)).zip values).map Prod.fst).Nodup := by
    rwa [List.map_fst_zip length]
  have member : (join.field, value) ∈ (Join.fields (joined.map Prod.fst)).zip values := by
    rw [Join.fields, List.map_map, List.zip_map_left]
    exact List.mem_map.mpr ⟨_, inZip, rfl⟩
  rw [Dictionary.get?_insertAll distinct, Dictionary.get?_of_mem distinct member, Option.some_or]

/-- What is outside of joins is outside of each of them. -/
theorem filter_leaves_subset {joins : List Join} {join : Join} (member : join ∈ joins) (row : Record) :
    (row.filter fun entry => Criteria.selects none entry.1 && Join.leaves joins entry.1) ⊆
      row.filter fun entry => Criteria.selects none entry.1 && Join.leaves [join] entry.1 := by
  intro entry inRest
  obtain ⟨inRow, leaves⟩ := List.mem_filter.mp inRest
  refine List.mem_filter.mpr ⟨inRow, Join.leaves_iff.mpr fun single => Join.leaves_iff.mp leaves ?_⟩
  exact List.mem_singleton.mp single ▸ List.mem_map_of_mem member

/-- A row that is read as a record with joins, and as one without, is read as one with any of the joins alone,
which holds what the record with all of them holds. -/
theorem ReadAs.exists_alone {before later : List (Join × List Record)} {join : Join} {children : List Record}
    (isJoined : before ++ (join, children) :: later = joined)
    (withJoins : registry.ReadAs registered joined none verified row full)
    (without : registry.ReadAs registered [] none verified row bare)
    (nodup : (Join.fields (joined.map Prod.fst)).Nodup)
    (keyApart : registered.model.primaryKey ∉ Join.fields (joined.map Prod.fst))
    (reads : join.parentKey ∉ Join.fields (before.map Prod.fst)) :
    ∃ alone, registry.ReadAs registered [(join, children)] none verified row alone ∧
      ∃ value, Dictionary.get? full join.field = some value ∧ Dictionary.get? alone join.field = some value := by
  obtain ⟨value, embedded, held⟩ := get?_field (isJoined ▸ withJoins) (isJoined ▸ nodup)
  -- no join before this one embeds under the column that it reads
  rw [Join.embed_congr (Join.get?_foldl_attach reads row)] at embedded
  have isJoin : join ∈ joined.map Prod.fst := by
    rw [← isJoined]
    exact List.mem_map_of_mem (List.mem_append_right before (List.mem_cons_self ..))
  have keyDiffers : join.field ≠ registered.model.primaryKey := fun same =>
    keyApart (same ▸ List.mem_map_of_mem isJoin)
  obtain ⟨rest, values, raised, -, rfl, fullFits⟩ := withJoins
  obtain ⟨wholeRaised, bareFits⟩ := readAs_nil.mp without
  obtain ⟨part, partRaised⟩ := Columns.exists_raise_filter wholeRaised fun entry =>
    Criteria.selects none entry.1 && Join.leaves [join] entry.1
  have fits (isVerified : verified = true) :
      registered.model.drift? (Dictionary.insert part join.field value) = none := by
    refine Model.drift?_of_parts (fullFits isVerified) (bareFits isVerified) (fun key isKey => ?_) ?_
    · rw [get?_insertAll_zip keyApart] at isKey
      rw [Dictionary.get?_insert, if_neg keyDiffers]
      exact Columns.get?_raise_of_subset raised partRaised (filter_leaves_subset isJoin row) isKey
    · intro name other isHeld
      rw [Dictionary.get?_insert] at isHeld
      split at isHeld
      · next isField => exact .inl (by rw [← isField, held, isHeld])
      · exact .inr (Columns.get?_raise_of_subset partRaised wholeRaised (List.filter_subset_self _) isHeld)
  refine ⟨_, readAs_single.mpr ⟨part, value, partRaised, embedded, rfl, fits⟩, value, held, ?_⟩
  rw [Dictionary.get?_insert, if_pos rfl]

/-! ## Finds with other associations -/

variable {place : Store.Place σ} {query : Description σ} {now : Instant} {compiled : LogicalQuery σ}
  {physical : PhysicalQuery} {run : Run σ} {outcome : Outcome}

/-- The joins of compiled associations embed under their names. -/
theorem fields_of_mapM {entries : Dictionary Json} {populates : Dictionary (Option Criteria)} {joins : List Join}
    (compiled : entries.mapM (Description.compilePopulate registry registered.model) = .ok populates)
    (made : populates.mapM (LogicalQuery.join registry registered) = .ok joins) :
    Join.fields joins = Dictionary.names entries := by
  have named : populates.map Prod.fst = entries.map Prod.fst :=
    map_eq_of_mapM (fun _ _ _ step => (Description.compilePopulate_eq_ok step).1) compiled
  have embedded : joins.map Join.field = populates.map Prod.fst :=
    map_eq_of_mapM (fun _ _ _ step => (LogicalQuery.joined_of_join step).field_eq) made
  exact embedded.trans named

theorem compilePopulates_eq (query : Description σ) (model : Model) :
    query.compilePopulates registry model =
      (query.populates.getD []).mapM (Description.compilePopulate registry model) := by
  unfold Description.compilePopulates
  cases query.populates <;> rfl

/-- The joins of a query embed under the names of its associations. -/
theorem fields_of_lowered (made : query.CompiledTo registry now registered.model compiled)
    (lowered : compiled.LoweredTo registered registry physical) :
    Join.fields physical.joins = Dictionary.names (query.populates.getD []) :=
  fields_of_mapM ((compilePopulates_eq query _).symm.trans made.populates) lowered.joins

/-- A query without associations has no joins. -/
theorem joins_eq_nil_of_alone (alone : query.populates = none)
    (made : query.CompiledTo registry now registered.model compiled)
    (lowered : compiled.LoweredTo registered registry physical) : physical.joins = [] := by
  have fields := fields_of_lowered made lowered
  rw [alone] at fields
  exact List.map_eq_nil_iff.mp fields

theorem takesPopulates_of_find (find : query.method = .find) : query.method.takesPopulates = true := by
  rw [find]
  rfl

/-- A find answers with the records that the rows of its query are read as. -/
theorem execute_find_iff (found : registry.model? query.model = some registered)
    (inStore : registered.adapter = place.adapter) (find : query.method = .find)
    (distinct : (Dictionary.names (query.populates.getD [])).Nodup)
    (made : query.CompiledTo registry now registered.model compiled) :
    (∃ after, result (registry.execute now query) run = (.ok outcome, after)) ↔
      ∃ physical records rows joined, compiled.LoweredTo registered registry physical ∧
        outcome = .records records ∧
        (place.part run.environment).rows registered.datastore physical.table = .ok rows ∧
        (place.part run.environment).children registered.datastore physical.joins = .ok joined ∧
        List.Forall₂ (registry.ReadAs registered joined physical.criteria.selection
          (!query.options.skipVerification)) (physical.criteria.select rows) records := by
  have isFind := made.method_eq.trans find
  have isCompiled := Description.compile_eq_ok.mpr ⟨registered, found, made⟩
  have nodup {physical : PhysicalQuery} (lowered : compiled.LoweredTo registered registry physical) :
      (Join.fields physical.joins).Nodup := by
    rwa [fields_of_lowered made lowered]
  rw [execute_of_compile found isCompiled, find, if_neg (by decide), perform_find isFind, ← made.options_eq]
  constructor
  · rintro ⟨after, done⟩
    obtain ⟨physical, answer, records, isLowered, isFound, materialized, rfl, -⟩ :=
      (fetch_find_eq_ok inStore isFind).mp done
    have lowered := LogicalQuery.lower_eq_ok.mp isLowered
    obtain ⟨rows, joined, stored, isJoined, each⟩ :=
      (find_read_iff (nodup lowered)).mp ⟨answer, isFound, materialized⟩
    exact ⟨physical, records, rows, joined, lowered, rfl, stored, isJoined, each⟩
  · rintro ⟨physical, records, rows, joined, lowered, rfl, stored, isJoined, each⟩
    obtain ⟨answer, isFound, materialized⟩ :=
      (find_read_iff (nodup lowered)).mpr ⟨rows, joined, stored, isJoined, each⟩
    exact ⟨_, (fetch_find_eq_ok inStore isFind).mpr
      ⟨physical, answer, records, LogicalQuery.lower_eq_ok.mpr lowered, isFound, materialized, rfl, rfl⟩⟩

/-- A find without associations answers with the records that the rows of its query are read as without joins. -/
theorem execute_find_alone_iff (found : registry.model? query.model = some registered)
    (inStore : registered.adapter = place.adapter) (find : query.method = .find) (alone : query.populates = none)
    (made : query.CompiledTo registry now registered.model compiled) :
    (∃ after, result (registry.execute now query) run = (.ok outcome, after)) ↔
      ∃ physical records rows, compiled.LoweredTo registered registry physical ∧ outcome = .records records ∧
        (place.part run.environment).rows registered.datastore registered.model.table = .ok rows ∧
        List.Forall₂ (registry.ReadAs registered [] physical.criteria.selection (!query.options.skipVerification))
          (physical.criteria.select rows) records := by
  have distinct : (Dictionary.names (query.populates.getD [])).Nodup := by
    rw [alone]
    exact List.nodup_nil
  rw [execute_find_iff found inStore find distinct made]
  constructor
  · rintro ⟨physical, records, rows, joined, lowered, isOutcome, stored, isJoined, each⟩
    rw [joins_eq_nil_of_alone alone made lowered] at isJoined
    obtain rfl := Except.ok.inj isJoined
    exact ⟨physical, records, rows, lowered, isOutcome, lowered.table_eq ▸ stored, each⟩
  · rintro ⟨physical, records, rows, lowered, isOutcome, stored, each⟩
    refine ⟨physical, records, rows, [], lowered, isOutcome, lowered.table_eq.symm ▸ stored, ?_, each⟩
    rw [joins_eq_nil_of_alone alone made lowered]
    rfl

section

variable {configuration : Configuration} {entries : Dictionary Json} {populates : Dictionary (Option Criteria)}

/-- No association that was compiled is the key. -/
theorem primaryKey_notMem (built : Built configuration registry)
    (found : registry.model? query.model = some registered)
    (compiled : entries.mapM (Description.compilePopulate registry registered.model) = .ok populates) :
    registered.model.primaryKey ∉ Dictionary.names entries := by
  intro isName
  obtain ⟨entry, member, isKey⟩ := List.mem_map.mp isName
  obtain ⟨populate, isPopulate⟩ := exists_mapM_eq_ok_iff.mp ⟨_, compiled⟩ entry member
  obtain ⟨-, child, associated, -⟩ := Description.compilePopulate_eq_ok isPopulate
  obtain ⟨target, _, kind, -⟩ := Description.associated_eq_ok associated
  rw [isKey] at kind
  rcases (built.valid_of_model? found).primaryKey with isScalar | isScalar <;> simp [isScalar] at kind

/-- A join reads a column that is not called like associations that do not shadow its attribute. -/
theorem parentKey_notMem (built : Built configuration registry)
    (found : registry.model? query.model = some registered) {name : String} {given : Option Criteria} {join : Join}
    (made : LogicalQuery.join registry registered (name, given) = .ok join) {associations : List String}
    (clear : ¬registered.columns.Shadowed associations (registered.model.joinAttribute name)) :
    join.parentKey ∉ associations := by
  intro member
  have isColumn := (LogicalQuery.joined_of_join made).parentKey_eq
  have faithful : registered.columns.Faithful :=
    built.columns_eq found ▸ Columns.faithful_ofModel (built.valid_of_model? found)
  exact clear ⟨join.parentKey, member, faithful _ _ isColumn⟩

/-- Without its associations, a find that shows everything reads the same rows without joins. -/
theorem readAs_of_bare (found : registry.model? query.model = some registered)
    (inStore : registered.adapter = place.adapter) (find : query.method = .find)
    (made : query.CompiledTo registry now registered.model compiled)
    (unselected : compiled.criteria.selection = none) (unomitted : compiled.criteria.omission = [])
    (lowered : compiled.LoweredTo registered registry physical) {rows : List Record}
    (stored : (place.part run.environment).rows registered.datastore physical.table = .ok rows) {after : Run σ}
    (done : result (registry.execute now { query with populates := none }) run = (.ok outcome, after)) :
    ∃ records, outcome = .records records ∧
      List.Forall₂ (registry.ReadAs registered [] none (!query.options.skipVerification))
        (physical.criteria.select rows) records := by
  have bareMade := @Description.CompiledTo.repopulated _ _ _ _ _ _ made (takesPopulates_of_find find) none [] rfl
  have noJoins : ([] : Dictionary (Option Criteria)).mapM (LogicalQuery.join registry registered) = .ok [] := rfl
  have bareLowered := LogicalQuery.lower_eq_ok.mpr (lowered.rejoined unselected unomitted noJoins)
  obtain ⟨other, records, _, joined, otherLowered, rfl, otherStored, isJoined, each⟩ :=
    (@execute_find_iff _ _ _ _ { query with populates := none } _ _ _ _ found inStore find List.nodup_nil
      bareMade).mp ⟨after, done⟩
  obtain rfl := Except.ok.inj (bareLowered.symm.trans (LogicalQuery.lower_eq_ok.mpr otherLowered))
  obtain rfl := Except.ok.inj (stored.symm.trans otherStored)
  obtain rfl := Except.ok.inj isJoined
  rw [otherLowered.selection_eq_none unselected unomitted] at each
  exact ⟨records, rfl, each⟩

/-- One association among others has its join among theirs, after the joins of the ones before it. -/
theorem exists_join_middle {store : Store} {datastore : String} {joins : List Join}
    {joined : List (Join × List Record)} {before later : Dictionary Json} {name : String} {raw : Json}
    (compiledAll : (before ++ (name, raw) :: later).mapM
      (Description.compilePopulate registry registered.model) = .ok populates)
    (madeAll : populates.mapM (LogicalQuery.join registry registered) = .ok joins)
    (isJoined : store.children datastore joins = .ok joined) :
    ∃ subcriteria join children front back,
      Description.compilePopulate registry registered.model (name, raw) = .ok (name, subcriteria) ∧
      LogicalQuery.join registry registered (name, subcriteria) = .ok join ∧
      store.children datastore [join] = .ok [(join, children)] ∧ front ++ (join, children) :: back = joined ∧
      Join.fields (front.map Prod.fst) = Dictionary.names before := by
  obtain ⟨front, ⟨populated, subcriteria⟩, back, compiledFront, isPopulate, -, rfl⟩ :=
    mapM_middle_eq_ok.mp compiledAll
  obtain rfl : populated = name := (Description.compilePopulate_eq_ok isPopulate).1
  obtain ⟨joinsFront, join, joinsBack, madeFront, isMade, -, rfl⟩ := mapM_middle_eq_ok.mp madeAll
  obtain ⟨joinedFront, entry, joinedBack, frontJoined, isEntry, -, rfl⟩ := mapM_middle_eq_ok.mp isJoined
  obtain ⟨children, -, rfl⟩ := map_eq_ok.mp isEntry
  refine ⟨subcriteria, join, children, joinedFront, joinedBack, isPopulate, isMade, ?_, rfl, ?_⟩
  · exact bind_eq_ok.mpr ⟨_, isEntry, rfl⟩
  · rw [Store.joins_of_children frontJoined, fields_of_mapM compiledFront madeFront]

/-- One association that was compiled with others is found alone, with what stands under its name. -/
theorem execute_alone (built : Built configuration registry) (found : registry.model? query.model = some registered)
    (inStore : registered.adapter = place.adapter) (find : query.method = .find)
    (given : query.populates = some entries) (distinct : (Dictionary.names entries).Nodup)
    (made : query.CompiledTo registry now registered.model compiled)
    (unselected : compiled.criteria.selection = none) (unomitted : compiled.criteria.omission = [])
    (lowered : compiled.LoweredTo registered registry physical) {rows bare full : List Record}
    {joined : List (Join × List Record)}
    (stored : (place.part run.environment).rows registered.datastore physical.table = .ok rows)
    (isJoined : (place.part run.environment).children registered.datastore physical.joins = .ok joined)
    (withJoins : List.Forall₂ (registry.ReadAs registered joined none (!query.options.skipVerification))
      (physical.criteria.select rows) full)
    (without : List.Forall₂ (registry.ReadAs registered [] none (!query.options.skipVerification))
      (physical.criteria.select rows) bare)
    {before later : Dictionary Json} {name : String} {raw : Json} (split : entries = before ++ (name, raw) :: later)
    (clear : ¬registered.columns.Shadowed (Dictionary.names before) (registered.model.joinAttribute name)) :
    ∃ alone after,
      result (registry.execute now { query with populates := some [(name, raw)] }) run = (.ok (.records alone), after) ∧
      List.Forall₂ (fun full alone => ∃ value, Dictionary.get? full name = some value ∧
        Dictionary.get? alone name = some value) full alone := by
  have compiledAll := made.populates
  rw [compilePopulates_eq, given, Option.getD_some] at compiledAll
  have fields : Join.fields (joined.map Prod.fst) = Dictionary.names entries := by
    rw [Store.joins_of_children isJoined, fields_of_lowered made lowered, given, Option.getD_some]
  have keyApart := primaryKey_notMem built found compiledAll
  rw [split] at compiledAll
  obtain ⟨subcriteria, join, children, front, back, isPopulate, isMade, isChildren, isAll, frontFields⟩ :=
    exists_join_middle compiledAll lowered.joins isJoined
  have reads : join.parentKey ∉ Join.fields (front.map Prod.fst) := by
    rw [frontFields]
    exact parentKey_notMem built found isMade clear
  rw [← fields] at distinct keyApart
  have each := (forall₂_and withJoins without).imp fun row full ⟨withJoins, bare, without⟩ =>
    withJoins.exists_alone isAll without distinct keyApart reads
  obtain ⟨alone, aloneRead, same⟩ := exists_forall₂ each
  rw [(LogicalQuery.joined_of_join isMade).field_eq] at same
  rw [← lowered.selection_eq_none unselected unomitted] at aloneRead
  have populate : [(name, raw)].mapM (Description.compilePopulate registry registered.model) =
      .ok [(name, subcriteria)] :=
    bind_eq_ok.mpr ⟨_, isPopulate, rfl⟩
  have single : [(name, subcriteria)].mapM (LogicalQuery.join registry registered) = .ok [join] :=
    bind_eq_ok.mpr ⟨_, isMade, rfl⟩
  have aloneMade := @Description.CompiledTo.repopulated _ _ _ _ _ _ made (takesPopulates_of_find find)
    (some [(name, raw)]) _ populate
  have aloneLowered := lowered.rejoined unselected unomitted single
  obtain ⟨after, executed⟩ := (@execute_find_iff _ _ _ _ { query with populates := some [(name, raw)] } _ _ run _
    found inStore find (List.pairwise_singleton _ _) aloneMade).mpr
    ⟨_, alone, rows, _, aloneLowered, rfl, stored, isChildren, aloneRead⟩
  exact ⟨alone, after, executed, same⟩

/-- With criteria that ask for nothing, a find finds nothing with any associations. -/
theorem execute_of_noop_criteria (found : registry.model? query.model = some registered)
    (find : query.method = .find) {details : String}
    (noop : query.compile registry now = .error (.noop details)) (run : Run σ)
    (populates : Option (Dictionary Json)) :
    result (registry.execute now { query with populates }) run = (.ok (.records []), run) := by
  obtain ⟨_, same, parts, inCriteria | inRecords⟩ := Description.compile_eq_noop noop
  · obtain rfl := Option.some.inj (found.symm.trans same)
    have other := @Description.compile_of_noop _ _ now { query with populates } _ found
      (Description.checkParts_repopulated (takesPopulates_of_find find) parts populates) _ inCriteria
    refine (@execute_of_noop _ _ _ { query with populates } _ found _ other run).trans ?_
    rw [find]
    rfl
  · obtain ⟨create, -⟩ := Description.records_of_noop inRecords
    rw [find] at create
    cases create

end

/-- Populating changes only what is populated. When a find that shows everything succeeds with some associations
and without any, it answers with as many records in the same order, which agree on all attributes that are
neither populated nor shadowed. And each association whose join reads no attribute that is shadowed by the ones
before it can be populated alone, and then holds in each record what it holds together with the others. -/
theorem populating_changes_populated {configuration : Configuration} {adapters : Dictionary (Adapter σ)}
    {hooks : Dictionary (Hooks σ)} {start finish : Run σ}
    (built : result (build configuration adapters hooks) start = (.ok registry, finish))
    (found : registry.model? query.model = some registered) (inStore : registered.adapter = place.adapter)
    (find : query.method = .find) (showAll : Criteria.ShowAll registered.model query.criteria)
    {entries : Dictionary Json} (given : query.populates = some entries) (distinct : (Dictionary.names entries).Nodup)
    {bareOutcome : Outcome} {bareAfter after : Run σ}
    (bareDone : result (registry.execute now { query with populates := none }) run = (.ok bareOutcome, bareAfter))
    (done : result (registry.execute now query) run = (.ok outcome, after)) :
    ∃ bare full, bareOutcome = .records bare ∧ outcome = .records full ∧
      List.Forall₂ (fun bare full => ∀ name ∉ Dictionary.names entries,
        ¬registered.columns.Shadowed (Dictionary.names entries) name →
          Dictionary.get? full name = Dictionary.get? bare name) bare full ∧
      ∀ before name raw later, entries = before ++ (name, raw) :: later →
        ¬registered.columns.Shadowed (Dictionary.names before) (registered.model.joinAttribute name) →
        ∃ alone aloneAfter,
          result (registry.execute now { query with populates := some [(name, raw)] }) run =
            (.ok (.records alone), aloneAfter) ∧
          List.Forall₂ (fun full alone => ∃ value, Dictionary.get? full name = some value ∧
            Dictionary.get? alone name = some value) full alone := by
  have isBuilt := built_of_build built
  rcases execute_eq_ok found done with ⟨details, noop, rfl, rfl⟩ | ⟨compiled, isCompiled⟩
  · have nothing := execute_of_noop_criteria found find noop after
    obtain ⟨same, -⟩ := Prod.mk.inj (bareDone.symm.trans (nothing none))
    obtain rfl := Except.ok.inj same
    refine ⟨[], [], rfl, by rw [find]; rfl, .nil, fun before name raw later _ _ => ?_⟩
    exact ⟨[], after, nothing _, .nil⟩
  obtain ⟨_, same, made⟩ := Description.compile_eq_ok.mp isCompiled
  obtain rfl := Option.some.inj (found.symm.trans same)
  have criteria := made.criteria
  rw [Description.compileCriteria, find] at criteria
  obtain ⟨unselected, unomitted⟩ := showAll _ criteria
  have distinctGiven : (Dictionary.names (query.populates.getD [])).Nodup := by
    rwa [given]
  obtain ⟨physical, full, rows, joined, lowered, rfl, stored, isJoined, withJoins⟩ :=
    (execute_find_iff found inStore find distinctGiven made).mp ⟨after, done⟩
  rw [lowered.selection_eq_none unselected unomitted] at withJoins
  obtain ⟨bare, rfl, without⟩ :=
    readAs_of_bare found inStore find made unselected unomitted lowered stored bareDone
  have fields : Join.fields (joined.map Prod.fst) = Dictionary.names entries := by
    rw [Store.joins_of_children isJoined, fields_of_lowered made lowered, given, Option.getD_some]
  refine ⟨bare, full, rfl, rfl, ?_, fun before name raw later split clear => ?_⟩
  · refine (forall₂_of_common without withJoins).imp fun bare full shared name outside clear => ?_
    obtain ⟨row, without, withJoins⟩ := shared
    rw [← fields] at outside clear
    exact withJoins.get?_of_clear without outside clear
  · exact execute_alone isBuilt found inStore find given distinct made unselected unomitted lowered stored isJoined
      withJoins without split clear

/-- Users with their pets, and the one that they like best. -/
def favourites : Configuration where
  datastores := [("default", { adapter := "memory" })]
  models := [
    { identity := "user", datastore := "default"
      attributes := [("best", .belongsTo "pet"), ("id", .ofType .number), ("pets", .hasMany "pet" "owner")] },
    { identity := "pet", datastore := "default"
      attributes := [("id", .ofType .number), ("owner", .belongsTo "user")] }]

/-- A find of all users with their pets and the one that they like best. -/
def findFavourites : Description Store where
  method := .find
  model := "user"
  populates := some [("best", .bool true), ("pets", .bool true)]

/-- A user with two pets is found with what its pets alone are found as, and keeps its key. -/
theorem findFavourites_agree :
    ∃ (registry : Registry Store) (start finish run bareAfter after aloneAfter : Run Store)
      (bare full alone : List Record),
      result (build favourites [("memory", Store.Place.alone.adapter)] []) start = (.ok registry, finish) ∧
      run.environment.rows "default" "user" = .ok [[("best", .ofNat 2), ("id", .ofNat 1)]] ∧
      run.environment.rows "default" "pet" =
        .ok [[("id", .ofNat 1), ("owner", .ofNat 1)], [("id", .ofNat 2), ("owner", .ofNat 1)]] ∧
      result (registry.execute ⟨0⟩ { findFavourites with populates := none }) run = (.ok (.records bare), bareAfter) ∧
      result (registry.execute ⟨0⟩ findFavourites) run = (.ok (.records full), after) ∧
      result (registry.execute ⟨0⟩ { findFavourites with populates := some [("pets", .bool true)] }) run =
        (.ok (.records alone), aloneAfter) ∧
      List.Forall₂ (fun bare full => Dictionary.get? full "id" = Dictionary.get? bare "id") bare full ∧
      List.Forall₂ (fun full alone => ∃ value, Dictionary.get? full "pets" = some value ∧
        Dictionary.get? alone "pets" = some value) full alone := by
  let start : Run Store := { environment := { keys := { draw := toString } } }
  let built := result (build favourites [("memory", Store.Place.alone.adapter)] []) start
  let userTable : Table :=
    { definition := { table := "user", primaryKey := "id" }, rows := [[("best", .ofNat 2), ("id", .ofNat 1)]] }
  let petTable : Table :=
    { definition := { table := "pet", primaryKey := "id" }
      rows := [[("id", .ofNat 1), ("owner", .ofNat 1)], [("id", .ofNat 2), ("owner", .ofNat 1)]] }
  let run : Run Store :=
    { environment := (built.2.environment.put "default" "user" userTable).put "default" "pet" petTable }
  have facts {registry : Registry Store} (isBuilt : built.1 = .ok registry) :
      ∃ registered, registry.model? findFavourites.model = some registered ∧
        registered.adapter = Store.Place.alone.adapter ∧
        (result (registry.execute ⟨0⟩ { findFavourites with populates := none }) run).1.isOk = true ∧
        (result (registry.execute ⟨0⟩ findFavourites) run).1.isOk = true ∧
        ¬registered.columns.Shadowed ["best", "pets"] "id" ∧
        ¬registered.columns.Shadowed ["best"] (registered.model.joinAttribute "pets") := by
    obtain rfl := Except.ok.inj isBuilt
    exact ⟨_, rfl, rfl, by cbv, by cbv, by decide, by decide⟩
  obtain ⟨registered, found, inStore, bareOk, fullOk, idClear, petsClear⟩ := facts rfl
  rcases bareDone : result (Registry.execute _ ⟨0⟩ { findFavourites with populates := none }) run with
    ⟨_ | bareOutcome, bareAfter⟩
  · rw [bareDone] at bareOk
    cases bareOk
  rcases done : result (Registry.execute _ ⟨0⟩ findFavourites) run with ⟨_ | outcome, after⟩
  · rw [done] at fullOk
    cases fullOk
  obtain ⟨bare, full, rfl, rfl, agree, each⟩ := populating_changes_populated (show built = _ from rfl) found inStore
    rfl (Criteria.showAll_of_absent rfl rfl _) rfl (by decide) bareDone done
  obtain ⟨alone, aloneAfter, aloneDone, same⟩ := each [("best", .bool true)] "pets" (.bool true) [] rfl petsClear
  exact ⟨_, start, _, run, bareAfter, after, aloneAfter, bare, full, alone, rfl, rfl, rfl, bareDone, done, aloneDone,
    agree.imp fun _ _ agrees => agrees "id" (by decide) idClear, same⟩

/-- Users whose nickname has a column that is called like the association of their pets. -/
def nicknames : Configuration where
  datastores := [("default", { adapter := "memory" })]
  models := [
    { identity := "user", datastore := "default"
      attributes := [("id", .ofType .number), ("nickname", { Attribute.ofType .string with column := some "pets" }),
        ("pets", .hasMany "pet" "owner")] },
    { identity := "pet", datastore := "default"
      attributes := [("id", .ofType .number), ("owner", .belongsTo "user")] }]

/-- A find of all users with their pets. -/
def findNicknames : Description Store where
  method := .find
  model := "user"
  populates := some [("pets", .bool true)]

/-- A nickname that is shadowed is missing in a user that is found with its pets. -/
theorem nickname_shadowed :
    ∃ (registry : Registry Store) (start finish run bareAfter after : Run Store) (registered : RegisteredModel Store),
      result (build nicknames [("memory", Store.Place.alone.adapter)] []) start = (.ok registry, finish) ∧
      registry.model? "user" = some registered ∧ registered.columns.Shadowed ["pets"] "nickname" ∧
      run.environment.rows "default" "user" = .ok [[("id", .ofNat 1), ("pets", .text "Ada")]] ∧
      result (registry.execute ⟨0⟩ { findNicknames with populates := none }) run =
        (.ok (.records [[("id", .ofNat 1), ("nickname", .text "Ada")]]), bareAfter) ∧
      result (registry.execute ⟨0⟩ findNicknames) run =
        (.ok (.records [[("id", .ofNat 1), ("pets", .list [])]]), after) := by
  let start : Run Store := { environment := { keys := { draw := toString } } }
  let built := result (build nicknames [("memory", Store.Place.alone.adapter)] []) start
  let table : Table :=
    { definition := { table := "user", primaryKey := "id" }, rows := [[("id", .ofNat 1), ("pets", .text "Ada")]] }
  let run : Run Store := { environment := built.2.environment.put "default" "user" table }
  have facts {registry : Registry Store} (isBuilt : built.1 = .ok registry) :
      ∃ registered, registry.model? "user" = some registered ∧ registered.columns.Shadowed ["pets"] "nickname" ∧
        (result (registry.execute ⟨0⟩ { findNicknames with populates := none }) run).1 =
          .ok (.records [[("id", .ofNat 1), ("nickname", .text "Ada")]]) ∧
        (result (registry.execute ⟨0⟩ findNicknames) run).1 =
          .ok (.records [[("id", .ofNat 1), ("pets", .list [])]]) := by
    obtain rfl := Except.ok.inj isBuilt
    exact ⟨_, rfl, by decide, by cbv, by cbv⟩
  obtain ⟨registered, found, shadowed, bareDone, done⟩ := facts rfl
  exact ⟨_, start, _, run, _, _, registered, rfl, found, shadowed, rfl, Prod.ext bareDone rfl, Prod.ext done rfl⟩

end Registry

end RecordMapper
