import RecordMapper.Proofs.Query.Compilation
import RecordMapper.Proofs.Registry.Build
import RecordMapper.Query.Lowering

/-! # When a compiled query can be lowered

A compiled query names stored attributes in its criteria, in its order, in what it shows and in its
aggregate, and its associations lead to models that refer back. What it writes is another matter: a
value for a plural association passes when it is null, and an update stamps any attribute that asks
for it. So a compiled query of a registry can be lowered exactly when it writes no plural
association.
-/

namespace RecordMapper

open Results

namespace Model

/-- A plural association: an attribute that has no column. -/
def Plural (model : Model) (name : String) : Prop :=
  name ∈ Dictionary.names model.attributes ∧ name ∉ Dictionary.names model.stored

theorem Declares.stores_iff {model : Model} {names : List String} (declares : model.Declares names) :
    model.Stores names ↔ ¬∃ name ∈ names, model.Plural name := by
  constructor
  · rintro stores ⟨name, member, -, notStored⟩
    exact notStored (stores name member)
  · intro none name member
    apply Classical.byContradiction
    intro notStored
    exact none ⟨name, member, declares name member, notStored⟩

end Model

namespace Criteria

theorem fields_showing {criteria : Criteria} {name field : String}
    (member : field ∈ (LogicalQuery.showing name criteria).fields) :
    field = name ∨ field ∈ criteria.fields := by
  unfold LogicalQuery.showing at member
  split at member
  · next names shown =>
    split at member
    · exact .inr member
    · simp only [fields, shown, List.mem_append, Option.getD_some, List.mem_singleton] at member ⊢
      rcases member with ((inClause | inSort) | inNames | rfl) | inOmission
      · exact .inr (.inl (.inl (.inl inClause)))
      · exact .inr (.inl (.inl (.inr inSort)))
      · exact .inr (.inl (.inr inNames))
      · exact .inl rfl
      · exact .inr (.inr inOmission)
  · exact .inr member

theorem fields_resolveOmission {model : Model} {criteria : Criteria}
    (stores : model.Stores criteria.fields) :
    model.Stores (LogicalQuery.resolveOmission model criteria).fields := by
  unfold LogicalQuery.resolveOmission
  split
  · exact stores
  · simp only [fields, Model.Stores, List.forall_mem_append] at stores ⊢
    obtain ⟨⟨⟨inClause, inSort⟩, -⟩, -⟩ := stores
    refine ⟨⟨⟨inClause, inSort⟩, ?_⟩, by simp⟩
    intro name member
    exact (List.mem_filter.mp member).1

theorem fields_showKeys {model : Model} {criteria : Criteria} {joins : List Join}
    (stores : model.Stores criteria.fields)
    (singular : ∀ join ∈ joins, join.collection = false → join.field ∈ Dictionary.names model.stored) :
    model.Stores (LogicalQuery.showKeys criteria joins).fields := by
  unfold LogicalQuery.showKeys
  induction joins generalizing criteria with
  | nil => exact stores
  | cons join rest ih =>
    obtain ⟨here, later⟩ := List.forall_mem_cons.mp singular
    rw [List.foldl_cons]
    refine ih ?_ later
    cases plural : join.collection with
    | true => exact stores
    | false =>
      intro field member
      rcases fields_showing member with rfl | member
      · exact here plural
      · exact stores field member

end Criteria

namespace Description

variable {σ : Type} {registry : Registry σ}

/-- A compiled association has the criteria that were read for its model, or none if these ask for
nothing. -/
theorem compilePopulate_eq_ok {model : Model} {entry : String × Json}
    {populate : String × Option Criteria}
    (done : compilePopulate registry model entry = .ok populate) :
    populate.1 = entry.1 ∧ ∃ child, associated registry model entry.1 (subcriteria? entry.2) = .ok child ∧
      ((∃ criteria, populate.2 = some criteria ∧
          Criteria.read child .find (subcriteria? entry.2) = .ok criteria) ∨
        populate.2 = none ∧
          ∃ details, Criteria.read child .find (subcriteria? entry.2) = .error (.noop details)) := by
  unfold compilePopulate at done
  obtain ⟨child, found, done⟩ := bind_eq_ok.mp done
  split at done
  · next criteria read =>
    obtain rfl := pure_eq_ok.mp done
    exact ⟨rfl, child, found, .inl ⟨criteria, rfl, read⟩⟩
  · next details noop =>
    obtain rfl := pure_eq_ok.mp done
    exact ⟨rfl, child, found, .inr ⟨rfl, details, noop⟩⟩
  · cases done

end Description

namespace LogicalQuery

/-- To show a name changes nothing but the selection. -/
theorem showing_eq (name : String) (criteria : Criteria) :
    showing name criteria = { criteria with selection := (showing name criteria).selection } := by
  unfold showing
  repeat' split
  all_goals rfl

theorem showKeys_eq (criteria : Criteria) (joins : List Join) :
    showKeys criteria joins = { criteria with selection := (showKeys criteria joins).selection } := by
  unfold showKeys
  induction joins generalizing criteria with
  | nil => rfl
  | cons join rest ih =>
    rw [List.foldl_cons, ih]
    split
    · rfl
    · rw [showing_eq]

/-- Criteria that show everything show the foreign keys of joins. -/
theorem showKeys_of_unselected {criteria : Criteria} (unselected : criteria.selection = none) (joins : List Join) :
    showKeys criteria joins = criteria := by
  have shows (name : String) : showing name criteria = criteria := by
    rw [showing, unselected]
  unfold showKeys
  induction joins with
  | nil => rfl
  | cons join rest ih =>
    rw [List.foldl_cons, shows, ite_self, ih]

/-- To resolve an omission leaves the clause as it is. -/
theorem clause_resolveOmission (model : Model) (criteria : Criteria) :
    (resolveOmission model criteria).clause = criteria.clause := by
  unfold resolveOmission
  split <;> rfl

variable {σ : Type} {configuration : Configuration} {registry : Registry σ}

/-- Criteria that only ask for stored attributes of a model, and show one of them, have a form in columns. -/
theorem exists_mapM_showing (built : Registry.Built configuration registry) {identity via : String}
    {registered : RegisteredModel σ} (found : registry.model? identity = some registered)
    (isStored : via ∈ Dictionary.names registered.model.stored) {criteria : Option Criteria}
    (stores : ∀ asked, criteria = some asked → registered.model.Stores asked.fields) :
    ∃ lowered, criteria.mapM (fun criteria => (showing via criteria).rename registered.columns.column) =
      .ok lowered := by
  cases criteria with
  | none => exact ⟨none, rfl⟩
  | some asked =>
    change ∃ lowered, ((showing via asked).rename registered.columns.column).map some = .ok lowered
    rw [exists_map_eq_ok_iff, Criteria.exists_rename_iff]
    intro field member
    rw [built.exists_column_iff found]
    rcases Criteria.fields_showing member with rfl | member
    · exact isStored
    · exact stores asked rfl field member

/-- A compiled association has its join, and the key of a singular one is stored. -/
theorem exists_join (built : Registry.Built configuration registry) {identity : String}
    {parent : RegisteredModel σ} (found : registry.model? identity = some parent)
    {entry : String × Json} {populate : String × Option Criteria}
    (done : Description.compilePopulate registry parent.model entry = .ok populate) :
    ∃ joined, join registry parent populate = .ok joined ∧
      (joined.collection = false → joined.field ∈ Dictionary.names parent.model.stored) := by
  obtain ⟨name, criteria⟩ := populate
  obtain ⟨isName, child, isAssociated, read⟩ := Description.compilePopulate_eq_ok done
  rw [← isName] at isAssociated
  obtain ⟨target, registered, kind, isRegistered, rfl, -⟩ := Description.associated_eq_ok isAssociated
  have valid := built.valid_of_model? found
  have childValid := built.valid_of_model? isRegistered
  obtain ⟨parentKey, parentKeyEq⟩ := (built.exists_column_iff found).mpr valid.primaryKey_mem
  obtain ⟨childKey, childKeyEq⟩ := (built.exists_column_iff isRegistered).mpr childValid.primaryKey_mem
  have isTarget : LogicalQuery.target registry target = .ok registered := by
    rw [LogicalQuery.target, isRegistered]
  rcases kind with kind | ⟨via, kind⟩
  · have stored := Model.mem_stored_of_kind? kind (by simp)
    obtain ⟨declared, isDeclared, isModel⟩ := Option.map_eq_some_iff.mp kind
    obtain ⟨foreignKey, foreignKeyEq⟩ := (built.exists_column_iff found).mpr stored
    refine ⟨{ field := name, parentKey := foreignKey, childTable := registered.model.table, childKey
              childModel := registered.identity, collection := false, criteria := some {} },
      ?_, fun _ => stored⟩
    unfold join
    simp only [isDeclared]
    refine bind_eq_ok.mpr ⟨declared, rfl, bind_eq_ok.mpr ⟨parentKey, parentKeyEq, ?_⟩⟩
    simp only [isModel]
    refine bind_eq_ok.mpr ⟨registered, isTarget, bind_eq_ok.mpr ⟨foreignKey, foreignKeyEq, ?_⟩⟩
    exact bind_eq_ok.mpr ⟨childKey, childKeyEq, rfl⟩
  · obtain ⟨declared, isDeclared, isCollection⟩ := Option.map_eq_some_iff.mp kind
    obtain ⟨child, back, isChild, rfl, refersBack⟩ := valid.refersBack kind
    obtain rfl := Option.some.inj (isChild.symm.trans (built.find?_of_model? isRegistered))
    have backStored := Model.mem_stored_of_kind? refersBack (by simp)
    obtain ⟨backColumn, backColumnEq⟩ := (built.exists_column_iff isRegistered).mpr backStored
    have stores (asked : Criteria) (given : criteria = some asked) : registered.model.Stores asked.fields := by
      subst given
      obtain ⟨_, same, isRead⟩ := read.resolve_right (by simp)
      obtain rfl := Option.some.inj same
      exact Criteria.fields_of_read childValid.primaryKey_mem isRead
    obtain ⟨lowered, loweredEq⟩ := exists_mapM_showing built isRegistered backStored stores
    refine ⟨{ field := name, parentKey, childTable := registered.model.table, childKey := backColumn
              childModel := registered.identity, collection := true, criteria := lowered }, ?_, by simp⟩
    unfold join
    simp only [isDeclared]
    refine bind_eq_ok.mpr ⟨declared, rfl, bind_eq_ok.mpr ⟨parentKey, parentKeyEq, ?_⟩⟩
    simp only [isCollection]
    refine bind_eq_ok.mpr ⟨registered, isTarget, bind_eq_ok.mpr ⟨back, rfl, ?_⟩⟩
    refine bind_eq_ok.mpr ⟨backColumn, backColumnEq, ?_⟩
    cases criteria
    all_goals exact bind_eq_ok.mpr ⟨lowered, loweredEq, rfl⟩

/-- The parts of a lowered query, and what each of them comes from. -/
structure LoweredTo (query : LogicalQuery σ) (registered : RegisteredModel σ)
    (registry : Registry σ) (physical : PhysicalQuery) : Prop where
  method_eq : physical.method = query.method
  table_eq : physical.table = registered.model.table
  options_eq : physical.options = query.options
  joins : query.populates.mapM (join registry registered) = .ok physical.joins
  criteria : (showKeys (resolveOmission registered.model query.criteria) physical.joins).rename
    registered.columns.column = .ok physical.criteria
  values : (match query.values with
    | some values => (registered.columns.lower values).map some
    | none => .ok none) = .ok physical.values
  records : query.records.mapM registered.columns.lower = .ok physical.records
  numericColumn : (match query.numericAttribute with
    | some name => (registered.columns.column name).map some
    | none => .ok none) = .ok physical.numericColumn

theorem lower_eq_ok {query : LogicalQuery σ} {registered : RegisteredModel σ}
    {physical : PhysicalQuery} :
    query.lower registered registry = .ok physical ↔ query.LoweredTo registered registry physical := by
  unfold lower
  constructor
  · intro done
    obtain ⟨joins, joinsDone, done⟩ := bind_eq_ok.mp done
    obtain ⟨criteria, criteriaDone, done⟩ := bind_eq_ok.mp done
    cases given : query.values
    all_goals
      simp only [given] at done
      obtain ⟨values, valuesDone, done⟩ := bind_eq_ok.mp done
      obtain ⟨records, recordsDone, done⟩ := bind_eq_ok.mp done
      cases aggregated : query.numericAttribute
      all_goals
        simp only [aggregated] at done
        obtain ⟨numericColumn, numericDone, done⟩ := bind_eq_ok.mp done
        obtain rfl := pure_eq_ok.mp done
        exact ⟨rfl, rfl, rfl, joinsDone, criteriaDone, by simpa only [given] using valuesDone, recordsDone,
          by simpa only [aggregated] using numericDone⟩
  · intro made
    have values := made.values
    have numericColumn := made.numericColumn
    refine bind_eq_ok.mpr ⟨_, made.joins, bind_eq_ok.mpr ⟨_, made.criteria, ?_⟩⟩
    cases given : query.values
    all_goals
      simp only [given] at values ⊢
      refine bind_eq_ok.mpr ⟨_, values, bind_eq_ok.mpr ⟨_, made.records, ?_⟩⟩
      cases aggregated : query.numericAttribute
      all_goals
        simp only [aggregated] at numericColumn ⊢
        refine bind_eq_ok.mpr ⟨_, numericColumn, pure_eq_ok.mpr ?_⟩
        rw [← made.method_eq, ← made.table_eq, ← made.options_eq]

/-- Of a query that shows everything, other associations change nothing but the joins. -/
theorem LoweredTo.rejoined {query : LogicalQuery σ} {registered : RegisteredModel σ} {physical : PhysicalQuery}
    (lowered : query.LoweredTo registered registry physical) (unselected : query.criteria.selection = none)
    (unomitted : query.criteria.omission = []) {populates : Dictionary (Option Criteria)} {joins : List Join}
    (joined : populates.mapM (join registry registered) = .ok joins) :
    LoweredTo { query with populates } registered registry { physical with joins } := by
  have criteria := lowered.criteria
  have resolved : resolveOmission registered.model query.criteria = query.criteria := by
    rw [resolveOmission, unomitted, List.isEmpty_nil, if_pos rfl]
  rw [resolved, showKeys_of_unselected unselected] at criteria
  refine { lowered with joins := joined, criteria := ?_ }
  rw [resolved, showKeys_of_unselected unselected]
  exact criteria

/-- A query that shows everything is lowered to one that does. -/
theorem LoweredTo.selection_eq_none {query : LogicalQuery σ} {registered : RegisteredModel σ}
    {physical : PhysicalQuery} (lowered : query.LoweredTo registered registry physical)
    (unselected : query.criteria.selection = none) (unomitted : query.criteria.omission = []) :
    physical.criteria.selection = none := by
  have criteria := lowered.criteria
  rw [resolveOmission, unomitted, List.isEmpty_nil, if_pos rfl, showKeys_of_unselected unselected] at criteria
  have selection := (Criteria.rename_eq_ok.mp criteria).2.2.1
  rw [unselected] at selection
  exact (Except.ok.inj selection).symm

/-- A query is lowered when each of its parts is. -/
theorem exists_lower_iff_parts {query : LogicalQuery σ} {registered : RegisteredModel σ} :
    (∃ physical, query.lower registered registry = .ok physical) ↔
      (∃ joins, query.populates.mapM (join registry registered) = .ok joins ∧
        ∃ criteria, (showKeys (resolveOmission registered.model query.criteria) joins).rename
          registered.columns.column = .ok criteria) ∧
      (∀ values, query.values = some values → ∃ row, registered.columns.lower values = .ok row) ∧
      (∀ record ∈ query.records, ∃ row, registered.columns.lower record = .ok row) ∧
      ∀ name, query.numericAttribute = some name → ∃ column, registered.columns.column name = .ok column := by
  constructor
  · rintro ⟨physical, lowered⟩
    have parts := lower_eq_ok.mp lowered
    refine ⟨⟨_, parts.joins, _, parts.criteria⟩, ?_, exists_mapM_eq_ok_iff.mp ⟨_, parts.records⟩, ?_⟩
    · intro values given
      have lowered := parts.values
      rw [given] at lowered
      exact exists_map_eq_ok_iff.mp ⟨_, lowered⟩
    · intro name aggregated
      have lowered := parts.numericColumn
      rw [aggregated] at lowered
      exact exists_map_eq_ok_iff.mp ⟨_, lowered⟩
  · rintro ⟨⟨joins, joinsEq, criteria, criteriaEq⟩, values, records, numeric⟩
    obtain ⟨rows, rowsEq⟩ := exists_mapM_eq_ok_iff.mpr records
    have valuesLowered : ∃ lowered, (match query.values with
        | some values => (registered.columns.lower values).map some
        | none => .ok none) = Except.ok lowered := by
      cases given : query.values with
      | none => exact ⟨none, rfl⟩
      | some record => exact exists_map_eq_ok_iff.mpr (values record given)
    have numericLowered : ∃ lowered, (match query.numericAttribute with
        | some name => (registered.columns.column name).map some
        | none => .ok none) = Except.ok lowered := by
      cases aggregated : query.numericAttribute with
      | none => exact ⟨none, rfl⟩
      | some name => exact exists_map_eq_ok_iff.mpr (numeric name aggregated)
    obtain ⟨lowered, loweredEq⟩ := valuesLowered
    obtain ⟨numericColumn, numericEq⟩ := numericLowered
    exact ⟨{ method := query.method, table := registered.model.table, criteria, values := lowered
             records := rows, numericColumn, joins, options := query.options },
      lower_eq_ok.mpr ⟨rfl, rfl, rfl, joinsEq, criteriaEq, loweredEq, rowsEq, numericEq⟩⟩

/-- The attribute that a compiled query aggregates over is stored. -/
theorem numericAttribute_stored {query : Description σ} {model : Model} {name : String}
    (done : query.compileNumericAttribute model = .ok (some name)) :
    name ∈ Dictionary.names model.stored := by
  unfold Description.compileNumericAttribute at done
  split at done
  · split at done
    · cases done
    · split at done
      · next kind =>
        obtain rfl := Option.some.inj (Except.ok.inj done)
        exact Model.mem_stored_of_kind? kind (by simp)
      · cases done
      · cases done
  · cases done

/-- The criteria of a compiled query name stored attributes. -/
theorem criteria_stored {query : Description σ} {model : Model} {criteria : Criteria}
    (key : model.primaryKey ∈ Dictionary.names model.stored)
    (done : query.compileCriteria model = .ok criteria) :
    model.Stores criteria.fields := by
  unfold Description.compileCriteria at done
  split at done
  · exact Criteria.fields_of_read key done
  · obtain rfl := Except.ok.inj done
    simp [Model.Stores, Criteria.fields, Clause.everything, Clause.predicates, Clause.predicatesOfParts]

/-- The associations of a compiled query have their joins. -/
theorem exists_joins (built : Registry.Built configuration registry) {query : Description σ}
    {registered : RegisteredModel σ} (found : registry.model? query.model = some registered)
    {populates : Dictionary (Option Criteria)}
    (done : query.compilePopulates registry registered.model = .ok populates) :
    ∃ joins, populates.mapM (join registry registered) = .ok joins ∧
      ∀ joined ∈ joins, joined.collection = false →
        joined.field ∈ Dictionary.names registered.model.stored := by
  have each : ∀ populate ∈ populates, ∃ joined, join registry registered populate = .ok joined ∧
      (joined.collection = false → joined.field ∈ Dictionary.names registered.model.stored) := by
    intro populate member
    unfold Description.compilePopulates at done
    split at done
    · obtain ⟨entry, -, step⟩ := (mem_mapM_iff done).mp member
      exact exists_join built found step
    · obtain rfl := Except.ok.inj done
      cases member
  obtain ⟨joins, joinsEq⟩ := exists_mapM_eq_ok_iff.mpr fun populate member =>
    let ⟨joined, step, _⟩ := each populate member
    ⟨joined, step⟩
  refine ⟨joins, joinsEq, ?_⟩
  intro joined member
  obtain ⟨populate, isPopulate, step⟩ := (mem_mapM_iff joinsEq).mp member
  obtain ⟨other, otherStep, stored⟩ := each populate isPopulate
  obtain rfl := Except.ok.inj (step.symm.trans otherStep)
  exact stored

/-- A query whose criteria name stored attributes, with compiled associations and a compiled aggregate,
can be lowered exactly when all that it writes is stored. -/
theorem exists_lower_iff_stores (built : Registry.Built configuration registry) {query : Description σ}
    {compiled : LogicalQuery σ} {registered : RegisteredModel σ}
    (found : registry.model? query.model = some registered)
    (criteria : registered.model.Stores compiled.criteria.fields)
    (populates : query.compilePopulates registry registered.model = .ok compiled.populates)
    (numericAttribute : query.compileNumericAttribute registered.model = .ok compiled.numericAttribute) :
    (∃ physical, compiled.lower registered registry = .ok physical) ↔
      (∀ values, compiled.values = some values → registered.model.Stores (Dictionary.names values)) ∧
        ∀ record ∈ compiled.records, registered.model.Stores (Dictionary.names record) := by
  have lowers (record : Record) : (∃ row, registered.columns.lower record = .ok row) ↔
      registered.model.Stores (Dictionary.names record) := by
    rw [built.columns_eq found]
    exact Columns.exists_lower_iff
  rw [exists_lower_iff_parts]
  simp only [lowers]
  constructor
  · rintro ⟨-, values, records, -⟩
    exact ⟨values, records⟩
  · rintro ⟨values, records⟩
    obtain ⟨joins, joinsEq, singular⟩ := exists_joins built found populates
    have shown := Criteria.fields_showKeys (Criteria.fields_resolveOmission criteria) singular
    have renamed := (Criteria.exists_rename_iff _).mpr fun field member =>
      (built.exists_column_iff found).mpr (shown field member)
    refine ⟨⟨joins, joinsEq, renamed⟩, values, records, fun name aggregated => ?_⟩
    rw [aggregated] at numericAttribute
    exact (built.exists_column_iff found).mpr (numericAttribute_stored numericAttribute)

/-- A compiled query of a registry can be lowered exactly when all that it writes is stored. -/
theorem exists_lower_iff (built : Registry.Built configuration registry) {now : Instant}
    {query : Description σ} {compiled : LogicalQuery σ} {registered : RegisteredModel σ}
    (found : registry.model? query.model = some registered)
    (done : query.compile registry now = .ok compiled) :
    (∃ physical, compiled.lower registered registry = .ok physical) ↔
      registered.model.Stores (query.written registered.model) := by
  obtain ⟨_, same, made⟩ := Description.compile_eq_ok.mp done
  obtain rfl := Option.some.inj (found.symm.trans same)
  have key := (built.valid_of_model? found).primaryKey_mem
  rw [(made.written_stores key).2]
  exact exists_lower_iff_stores built found (criteria_stored key made.criteria) made.populates
    made.numericAttribute

end LogicalQuery

end RecordMapper
