import RecordMapper.Proofs.Query.Joins

/-! # The names in a physical query

A query that was lowered speaks of a table in the table's own words: whatever it names of its model is
a column of that model, and whatever its joins name of another model is a column of the other one. This
holds of every query that is lowered, also of one that was never compiled. A query without associations
is lowered exactly when the names that it carries over are stored; a name that is only omitted is not
among them.
-/

namespace RecordMapper

open Results

variable {σ : Type}

/-- Every one of some names is a column of the model. -/
def RegisteredModel.HasColumns (registered : RegisteredModel σ) (names : List String) : Prop :=
  ∀ column ∈ names, ∃ name, registered.columns.column name = .ok column

/-- A join of a model leads to the model of an association, and names columns of the two. -/
structure Join.InColumns (join : Join) (registry : Registry σ) (parent : RegisteredModel σ) : Prop where
  parentKey : parent.HasColumns [join.parentKey]
  child : ∃ target child,
    (parent.model.kind? join.field = some (.model target) ∨
      ∃ via, parent.model.kind? join.field = some (.collection target via)) ∧
    registry.model? target = some child ∧ join.childModel = child.identity ∧
    join.childTable = child.model.table ∧ child.HasColumns [join.childKey] ∧
    ∀ criteria, join.criteria = some criteria → child.HasColumns criteria.fields

/-- A physical query is to the table of a model, and names columns only. -/
structure PhysicalQuery.InColumns (query : PhysicalQuery) (registry : Registry σ)
    (registered : RegisteredModel σ) : Prop where
  table : query.table = registered.model.table
  criteria : registered.HasColumns query.criteria.fields
  noOmission : query.criteria.omission = []
  values : ∀ values, query.values = some values → registered.HasColumns (Dictionary.names values)
  records : ∀ record ∈ query.records, registered.HasColumns (Dictionary.names record)
  numericColumn : registered.HasColumns query.numericColumn.toList
  joins : ∀ join ∈ query.joins, join.InColumns registry registered

/-! ## What renaming names -/

namespace Clause

variable {ε : Type} {name : String → Except ε String}

mutual

theorem fields_of_rename {clause renamed : Clause} (done : clause.rename name = .ok renamed) :
    ∀ predicate ∈ renamed.predicates, ∃ field, name field = .ok predicate.field := by
  cases clause with
  | and parts =>
    obtain ⟨others, renamedParts, rfl⟩ := map_eq_ok.mp done
    exact fields_of_renameParts renamedParts
  | or parts =>
    obtain ⟨others, renamedParts, rfl⟩ := map_eq_ok.mp done
    exact fields_of_renameParts renamedParts
  | leaf predicate =>
    obtain ⟨field, found, rfl⟩ := map_eq_ok.mp done
    intro other member
    obtain rfl := List.mem_singleton.mp member
    exact ⟨predicate.field, found⟩

theorem fields_of_renameParts {parts renamed : List Clause} (done : renameParts name parts = .ok renamed) :
    ∀ predicate ∈ predicatesOfParts renamed, ∃ field, name field = .ok predicate.field := by
  cases parts with
  | nil =>
    obtain rfl := Except.ok.inj done
    simp [predicatesOfParts]
  | cons part rest =>
    obtain ⟨first, here, done⟩ := bind_eq_ok.mp done
    obtain ⟨others, there, done⟩ := bind_eq_ok.mp done
    obtain rfl := pure_eq_ok.mp done
    intro predicate member
    rcases List.mem_append.mp member with member | member
    · exact fields_of_rename here predicate member
    · exact fields_of_renameParts there predicate member

end

end Clause

namespace Criteria

variable {ε : Type} {name : String → Except ε String}

theorem fields_of_rename {criteria renamed : Criteria} (done : criteria.rename name = .ok renamed) :
    ∀ field ∈ renamed.fields, ∃ other, name other = .ok field := by
  obtain ⟨clause, sort, selection, omission, -, -⟩ := rename_eq_ok.mp done
  simp only [fields, List.forall_mem_append]
  refine ⟨⟨⟨?_, ?_⟩, ?_⟩, ?_⟩
  · intro field member
    obtain ⟨predicate, isPredicate, rfl⟩ := List.mem_map.mp member
    exact Clause.fields_of_rename clause predicate isPredicate
  · intro field member
    obtain ⟨term, isTerm, rfl⟩ := List.mem_map.mp member
    obtain ⟨before, -, step⟩ := (mem_mapM_iff sort).mp isTerm
    obtain ⟨other, found, rfl⟩ := map_eq_ok.mp step
    exact ⟨before.field, found⟩
  · intro field member
    cases chosen : criteria.selection with
    | none =>
      rw [chosen] at selection
      rw [← Except.ok.inj selection] at member
      cases member
    | some names =>
      rw [chosen] at selection
      obtain ⟨others, renamedNames, same⟩ := map_eq_ok.mp selection
      rw [← same] at member
      obtain ⟨other, -, found⟩ := (mem_mapM_iff renamedNames).mp member
      exact ⟨other, found⟩
  · intro field member
    obtain ⟨other, -, found⟩ := (mem_mapM_iff omission).mp member
    exact ⟨other, found⟩

end Criteria

namespace Columns

variable {columns : Columns}

theorem names_of_lower {record row : Record} (lowered : columns.lower record = .ok row) :
    ∀ column ∈ Dictionary.names row, ∃ name, columns.column name = .ok column := by
  obtain ⟨entries, lowering, done⟩ := bind_eq_ok.mp lowered
  obtain rfl := pure_eq_ok.mp done
  intro column member
  obtain ⟨entry, isEntry, rfl⟩ := List.mem_map.mp (Dictionary.mem_names_ofList.mp member)
  obtain ⟨field, -, step⟩ := (mem_mapM_iff lowering).mp isEntry
  obtain ⟨other, found, rfl⟩ := map_eq_ok.mp step
  exact ⟨field.1, found⟩

end Columns

/-! ## What lowering names -/

namespace LogicalQuery

variable {registry : Registry σ} {registered : RegisteredModel σ} {query : LogicalQuery σ}

theorem Joined.inColumns {name : String} {given : Option Criteria} {join : Join}
    (joined : Joined registry registered name given join) : join.InColumns registry registered := by
  have one {model : RegisteredModel σ} {name column : String}
      (found : model.columns.column name = .ok column) : model.HasColumns [column] := by
    intro other member
    exact ⟨_, List.mem_singleton.mp member ▸ found⟩
  cases joined with
  | singular kind found holds key =>
    refine ⟨one holds, _, _, .inl kind, found, rfl, rfl, one key, ?_⟩
    rintro _ same field member
    obtain rfl := Option.some.inj same
    cases member
  | plural kind found key refers lowered =>
    refine ⟨one key, _, _, .inr ⟨_, kind⟩, found, rfl, rfl, one refers, ?_⟩
    rintro _ same
    obtain rfl := Option.some.inj same
    exact Criteria.fields_of_rename lowered
  | never kind found key refers =>
    exact ⟨one key, _, _, .inr ⟨_, kind⟩, found, rfl, rfl, one refers, fun _ absurd => by cases absurd⟩

theorem omission_resolveOmission (model : Model) (criteria : Criteria) :
    (resolveOmission model criteria).omission = [] := by
  unfold resolveOmission
  split
  · next empty => exact List.isEmpty_iff.mp empty
  · rfl

/-- Whatever is lowered speaks of its table in columns. -/
theorem LoweredTo.inColumns {physical : PhysicalQuery}
    (made : query.LoweredTo registered registry physical) : physical.InColumns registry registered where
  table := made.table_eq
  criteria := Criteria.fields_of_rename made.criteria
  noOmission := by
    have omission := (Criteria.rename_eq_ok.mp made.criteria).2.2.2.1
    rw [showKeys_eq] at omission
    rw [omission_resolveOmission] at omission
    exact (pure_eq_ok.mp omission).symm
  values := by
    intro values isValues
    have lowered := made.values
    rw [isValues] at lowered
    cases given : query.values with
    | none => simp [given] at lowered
    | some record =>
      rw [given] at lowered
      obtain ⟨row, lowering, same⟩ := map_eq_ok.mp lowered
      obtain rfl := Option.some.inj same
      exact Columns.names_of_lower lowering
  records := by
    intro row member
    obtain ⟨record, -, lowering⟩ := (mem_mapM_iff made.records).mp member
    exact Columns.names_of_lower lowering
  numericColumn := by
    intro column isColumn
    have lowered := made.numericColumn
    rw [Option.mem_toList.mp isColumn] at lowered
    cases aggregated : query.numericAttribute with
    | none => simp [aggregated] at lowered
    | some name =>
      rw [aggregated] at lowered
      obtain ⟨other, found, same⟩ := map_eq_ok.mp lowered
      obtain rfl := Option.some.inj same
      exact ⟨name, found⟩
  joins := by
    intro join member
    obtain ⟨populate, -, step⟩ := (mem_mapM_iff made.joins).mp member
    exact (joined_of_join step).inColumns

end LogicalQuery

/-! ## Which names are carried over -/

/-- The names in criteria that a query to an adapter has to have: those of the clause and of the order,
and those of the selection unless an omission stands in for it. -/
def Criteria.carried (criteria : Criteria) : List String :=
  criteria.clause.predicates.map Predicate.field ++ criteria.sort.map SortTerm.field ++
    if criteria.omission.isEmpty then criteria.selection.getD [] else []

theorem Criteria.stores_carried_iff {model : Model} {criteria : Criteria} :
    model.Stores (LogicalQuery.resolveOmission model criteria).fields ↔ model.Stores criteria.carried := by
  unfold LogicalQuery.resolveOmission carried
  split
  · next empty => simp [fields, Model.Stores, List.isEmpty_iff.mp empty, or_imp, forall_and]
  · have kept : ∀ name ∈ (Dictionary.names model.stored).filter fun name => !criteria.omission.contains name,
        name ∈ Dictionary.names model.stored := fun name member => (List.mem_filter.mp member).1
    simp only [fields, Model.Stores, List.forall_mem_append, Option.getD_some, List.append_nil]
    exact ⟨fun stores => stores.1, fun stores => ⟨stores, kept⟩⟩

namespace LogicalQuery

variable {registry : Registry σ} {registered : RegisteredModel σ} {query : LogicalQuery σ}

/-- The names that a query without associations carries over to its adapter. -/
def carried (query : LogicalQuery σ) : List String :=
  query.criteria.carried ++ (query.values.map Dictionary.names).getD [] ++
    query.records.flatMap Dictionary.names ++ query.numericAttribute.toList

/-- A query without associations is lowered exactly when what it carries over is stored. -/
theorem exists_lower_iff_carried (ofModel : registered.columns = Columns.ofModel registered.model)
    (noPopulates : query.populates = []) :
    (∃ physical, query.lower registered registry = .ok physical) ↔
      registered.model.Stores query.carried := by
  rw [exists_lower_iff_parts, noPopulates, ofModel]
  simp only [Columns.exists_column_iff, Columns.exists_lower_iff, carried]
  simp only [Model.Stores, List.forall_mem_append, List.forall_mem_flatMap, Option.mem_toList]
  constructor
  · rintro ⟨⟨joins, none, renamed⟩, values, records, numeric⟩
    obtain rfl := pure_eq_ok.mp none
    have criteria : registered.model.Stores query.criteria.carried :=
      Criteria.stores_carried_iff.mp fun field member =>
        Columns.exists_column_iff.mp ((Criteria.exists_rename_iff _).mp renamed field member)
    refine ⟨⟨⟨criteria, ?_⟩, records⟩, numeric⟩
    cases given : query.values with
    | none => simp
    | some record => exact values record given
  · rintro ⟨⟨⟨criteria, values⟩, records⟩, numeric⟩
    have renamed := (Criteria.exists_rename_iff (resolveOmission registered.model query.criteria)).mpr
      fun field member => Columns.exists_column_iff.mpr (Criteria.stores_carried_iff.mpr criteria field member)
    refine ⟨⟨[], rfl, renamed⟩, fun record given => ?_, records, numeric⟩
    rw [given] at values
    exact values

end LogicalQuery

end RecordMapper
