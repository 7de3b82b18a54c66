import Mathlib.Data.List.Nodup
import RecordMapper.Proofs.Model.Rows

/-! # Nothing is lost between records and rows

In a valid model every stored attribute has a column of its own. So lowering a record and raising its row gives
the record back, and a row of columns comes back from its record. A row may hold more than the columns of the
model: what no attribute claims keeps its name, which can be the name of an attribute that is stored elsewhere.
Such a row is raised as long as its fields have names of their own, and otherwise it is refused.
-/

namespace RecordMapper

open Results

namespace Model

/-- The values of an attribute are stored in a column. -/
def StoresIn (model : Model) (name column : String) : Prop :=
  ∃ declared, (name, declared) ∈ model.stored ∧ declared.columnOf name = column

/-- The name of a field of a row in a record: that of the attribute which is stored in the column, or the
column's own where none is. -/
def Names (model : Model) (column name : String) : Prop :=
  model.StoresIn name column ∨ (∀ other, ¬model.StoresIn other column) ∧ column = name

/-- Two fields of a row have one name in a record. -/
def Collides (model : Model) (row : Record) : Prop :=
  ∃ first ∈ Dictionary.names row, ∃ second ∈ Dictionary.names row, first ≠ second ∧
    ∃ name, model.Names first name ∧ model.Names second name

theorem mem_names_stored_iff {model : Model} {name : String} :
    name ∈ Dictionary.names model.stored ↔ ∃ column, model.StoresIn name column := by
  constructor
  · intro member
    obtain ⟨⟨_, declared⟩, isStored, rfl⟩ := List.mem_map.mp member
    exact ⟨_, declared, isStored, rfl⟩
  · rintro ⟨_, declared, isStored, -⟩
    exact List.mem_map.mpr ⟨_, isStored, rfl⟩

end Model

namespace Columns

variable {model : Model} {models : List Model}

theorem column_eq_ok_iff {name column : String} :
    (ofModel model).column name = .ok column ↔ model.StoresIn name column := by
  have nodup : ((model.stored.map fun entry => (entry.1, entry.2.columnOf entry.1)).map Prod.fst).Nodup := by
    rw [List.map_map]
    exact model.sorted_stored.nodup
  rw [column_eq_ok, column?, ofModel, Dictionary.get?_ofList_eq_some_iff nodup]
  simp [Model.StoresIn]

theorem attribute?_eq_some_iff (valid : model.Valid models) {name column : String} :
    (ofModel model).attribute? column = some name ↔ model.StoresIn name column := by
  have nodup : ((model.stored.map fun entry => (entry.2.columnOf entry.1, entry.1)).map Prod.fst).Nodup := by
    rw [List.map_map]
    exact valid.columns
  rw [attribute?, ofModel, Dictionary.get?_ofList_eq_some_iff nodup]
  simp [Model.StoresIn, and_comm]

theorem nameOf_eq_iff (valid : model.Valid models) {column name : String} :
    (ofModel model).nameOf column = name ↔ model.Names column name := by
  unfold nameOf Model.Names
  simp only [← attribute?_eq_some_iff valid]
  cases (ofModel model).attribute? column with
  | none => simp
  | some claiming => simp

/-- Where its fields are stored in columns, lowering a record and raising its row gives it back. -/
theorem raise_lower (valid : model.Valid models) (record : Dictionary.Ordered Json)
    (stored : ∀ name ∈ Dictionary.names record.val, ∃ column, model.StoresIn name column) :
    ∃ row, (ofModel model).lower record.val = .ok row ∧ (ofModel model).raise row = .ok record.val := by
  have covers : (ofModel model).Covers record.val := by
    intro name member
    obtain ⟨column, isColumn⟩ := stored name member
    have found := column_eq_ok_iff.mpr isColumn
    rw [columnOf_of_ok found]
    exact found
  exact ⟨_, lower_of_covers covers, (faithful_ofModel valid).raise_rowOf ⟨record.property, covers⟩⟩

/-- A column is the one of the attribute that its value is raised under. -/
theorem column_nameOf (valid : model.Valid models) {name column : String}
    (isStored : model.StoresIn name column) :
    (ofModel model).column ((ofModel model).nameOf column) = .ok column := by
  rw [(nameOf_eq_iff valid).mpr (.inl isStored)]
  exact column_eq_ok_iff.mpr isStored

/-- Columns do not collide with each other. -/
theorem not_collides_of_columns (valid : model.Valid models) (row : Dictionary.Ordered Json)
    (columns : ∀ column ∈ Dictionary.names row.val, ∃ name, model.StoresIn name column) :
    ¬(ofModel model).Collides row.val := by
  have distinct : ((Dictionary.names row.val).map (ofModel model).nameOf).Nodup := by
    refine row.property.nodup.map_on fun first isFirst second isSecond same => ?_
    obtain ⟨_, firstStored⟩ := columns first isFirst
    obtain ⟨_, secondStored⟩ := columns second isSecond
    have sameColumn := column_nameOf valid secondStored
    rw [← same, column_nameOf valid firstStored] at sameColumn
    exact Except.ok.inj sameColumn
  rw [Dictionary.names, List.map_map] at distinct
  exact not_not_intro distinct

/-- Where all its fields are columns, raising a row and lowering its record gives it back. -/
theorem lower_raise (valid : model.Valid models) (row : Dictionary.Ordered Json)
    (columns : ∀ column ∈ Dictionary.names row.val, ∃ name, model.StoresIn name column) :
    ∃ record, (ofModel model).raise row.val = .ok record ∧ (ofModel model).lower record = .ok row.val := by
  have apart := not_collides_of_columns valid row columns
  have back : ∀ field ∈ row.val, (ofModel model).column ((ofModel model).nameOf field.1) = .ok field.1 := by
    intro field isField
    obtain ⟨_, isStored⟩ := columns field.1 (List.mem_map_of_mem isField)
    exact column_nameOf valid isStored
  have renamed : ((row.val.map fun field => ((ofModel model).nameOf field.1, field.2)).map Prod.fst).Nodup := by
    rw [List.map_map]
    exact of_not_not apart
  have covers : (ofModel model).Covers ((ofModel model).renamed row.val) := by
    intro name member
    rw [Columns.renamed, Dictionary.mem_names_ofList, List.map_map] at member
    obtain ⟨field, isField, rfl⟩ := List.mem_map.mp member
    have found := back field isField
    exact found.trans (congrArg Except.ok (columnOf_of_ok found).symm)
  refine ⟨_, raise_eq_ok_iff.mpr ⟨apart, rfl⟩, ?_⟩
  rw [lower_of_covers covers]
  refine congrArg Except.ok (row.property.ofList_eq ?_)
  refine ((Dictionary.perm_ofList renamed).map _).trans (.of_eq ?_)
  rw [List.map_map]
  refine (List.map_congr_left fun field isField => ?_).trans (List.map_id row.val)
  exact Prod.ext (columnOf_of_ok (back field isField)) rfl

/-- A record is not lowered for a field that is not stored. -/
theorem lower_eq_error {record : Record} {error : TransformError}
    (refused : (ofModel model).lower record = .error error) :
    ∃ name ∈ Dictionary.names record, (∀ column, ¬model.StoresIn name column) ∧
      error = .unknownAttribute model.identity name := by
  rcases bind_eq_error.mp refused with failed | ⟨_, _, absurd⟩
  · obtain ⟨entry, member, step⟩ := exists_of_mapM_eq_error failed
    have failed := map_eq_error.mp step
    refine ⟨entry.1, List.mem_map_of_mem member, fun column isStored => ?_, ?_⟩
    · rw [column_eq_ok_iff.mpr isStored] at failed
      cases failed
    · unfold column at failed
      split at failed
      · cases failed
      · exact (Except.error.inj failed).symm
  · cases absurd

theorem exists_lower_error_iff {record : Record} :
    (∃ error, (ofModel model).lower record = .error error) ↔
      ∃ name ∈ Dictionary.names record, ∀ column, ¬model.StoresIn name column := by
  constructor
  · rintro ⟨error, refused⟩
    obtain ⟨name, member, absent, -⟩ := lower_eq_error refused
    exact ⟨name, member, absent⟩
  · rintro ⟨name, member, absent⟩
    cases result : (ofModel model).lower record with
    | error error => exact ⟨error, rfl⟩
    | ok row =>
      obtain ⟨column, isStored⟩ := Model.mem_names_stored_iff.mp (exists_lower_iff.mp ⟨row, result⟩ name member)
      exact absurd isStored (absent column)

/-- A row is not raised for a field whose name is taken. -/
theorem raiseInto_eq_error {columns : Columns} {sofar : Record} {fields : List (String × Json)} {error : TransformError}
    (refused : columns.raiseInto sofar fields = .error error) :
    ∃ column name, error = .collision columns.model column name := by
  induction fields generalizing sofar with
  | nil => cases refused
  | cons field rest ih =>
    rw [raiseInto] at refused
    split at refused
    · exact ⟨_, _, (Except.error.inj refused).symm⟩
    · exact ih refused

theorem collides_ofModel (valid : model.Valid models) (row : Dictionary.Ordered Json) :
    (ofModel model).Collides row.val ↔ model.Collides row.val := by
  have names : (row.val.map fun field => (ofModel model).nameOf field.1) =
      (Dictionary.names row.val).map (ofModel model).nameOf := by
    rw [Dictionary.names, List.map_map]
    rfl
  rw [Collides, names, List.nodup_map_iff_inj_on row.property.nodup]
  push Not
  constructor
  · rintro ⟨first, isFirst, second, isSecond, same, differ⟩
    exact ⟨first, isFirst, second, isSecond, differ, _, (nameOf_eq_iff valid).mp rfl,
      (nameOf_eq_iff valid).mp same.symm⟩
  · rintro ⟨first, isFirst, second, isSecond, differ, name, firstName, secondName⟩
    refine ⟨first, isFirst, second, isSecond, ?_, differ⟩
    rw [(nameOf_eq_iff valid).mpr firstName, (nameOf_eq_iff valid).mpr secondName]

/-- A row is refused for a collision if two of its fields have one name. -/
theorem exists_collision_iff (valid : model.Valid models) (row : Dictionary.Ordered Json) :
    (∃ column name, (ofModel model).raise row.val = .error (.collision model.identity column name)) ↔
      model.Collides row.val := by
  rw [← collides_ofModel valid row]
  cases result : (ofModel model).raise row.val with
  | error error =>
    obtain ⟨column, name, rfl⟩ := raiseInto_eq_error result
    refine iff_of_true ⟨column, name, rfl⟩ ?_
    by_contra apart
    have raised := raise_eq_ok_iff.mpr ⟨apart, rfl⟩
    rw [result] at raised
    cases raised
  | ok record => exact iff_of_false nofun (raise_eq_ok_iff.mp result).1

/-- A row without a collision has one entry in its record for each of its fields. -/
theorem exists_entries (valid : model.Valid models) {row : Record} (apart : ¬(ofModel model).Collides row) :
    ∃ record entries, (ofModel model).raise row = .ok record ∧
      List.Forall₂ (fun field entry => model.Names field.1 entry.1 ∧ entry.2 = field.2) row entries ∧
      record.Perm entries ∧ Dictionary.Sorted record := by
  have distinct : ((row.map fun field => ((ofModel model).nameOf field.1, field.2)).map Prod.fst).Nodup := by
    rw [List.map_map]
    exact of_not_not apart
  have perm := Dictionary.perm_ofList distinct
  refine ⟨_, _, raise_eq_ok_iff.mpr ⟨apart, rfl⟩, ?_, perm, Dictionary.sorted_ofList _⟩
  rw [List.forall₂_map_right_iff]
  exact List.forall₂_same.mpr fun field _ => ⟨(nameOf_eq_iff valid).mp rfl, rfl⟩

/-- Between the records and the rows of a model that is accepted nothing is lost. A record whose fields are all
stored comes back from its row, and no other record has one: it is refused for a field that is not stored. A row
of columns comes back from its record. Any row at all is refused exactly where two of its fields have one name,
and otherwise it becomes a record with one entry for each of them, which holds the same value. -/
theorem lossless (accepted : model.check models = .ok ()) :
    let columns := ofModel model
    (∀ record : Dictionary.Ordered Json,
      (∀ name ∈ Dictionary.names record.val, ∃ column, model.StoresIn name column) →
        ∃ row, columns.lower record.val = .ok row ∧ columns.raise row = .ok record.val) ∧
    (∀ record : Record,
      ((∃ error, columns.lower record = .error error) ↔
        ∃ name ∈ Dictionary.names record, ∀ column, ¬model.StoresIn name column) ∧
      ∀ error, columns.lower record = .error error →
        ∃ name ∈ Dictionary.names record, (∀ column, ¬model.StoresIn name column) ∧
          error = .unknownAttribute model.identity name) ∧
    (∀ row : Dictionary.Ordered Json,
      (∀ column ∈ Dictionary.names row.val, ∃ name, model.StoresIn name column) →
        ∃ record, columns.raise row.val = .ok record ∧ columns.lower record = .ok row.val) ∧
    ∀ row : Dictionary.Ordered Json,
      ((∃ column name, columns.raise row.val = .error (.collision model.identity column name)) ↔
        model.Collides row.val) ∧
      (¬model.Collides row.val → ∃ record entries, columns.raise row.val = .ok record ∧
        List.Forall₂ (fun field entry => model.Names field.1 entry.1 ∧ entry.2 = field.2) row.val entries ∧
        record.Perm entries ∧ Dictionary.Sorted record) := by
  intro columns
  have valid := Model.valid_of_check accepted
  refine ⟨raise_lower valid, fun record => ⟨exists_lower_error_iff, fun error => lower_eq_error⟩, lower_raise valid,
    fun row => ?_⟩
  exact ⟨exists_collision_iff valid row, fun apart => exists_entries valid
    (mt (collides_ofModel valid row).mp apart)⟩

/-- Users whose name and nickname are stored in the columns of each other's name. -/
def swappedNames : Model where
  identity := "user"
  datastore := "default"
  attributes := [("age", { Attribute.ofType .number with column := some "years" }), ("id", .ofType .number),
    ("name", { Attribute.ofType .string with column := some "nick" }),
    ("nick", { Attribute.ofType .string with column := some "name" })]

/-- Swapped names come back, in a user and in a row. A field without a column and an age given twice are refused. -/
theorem swappedNames_comeBack :
    let columns := ofModel swappedNames
    let user : Record := [("age", .ofNat 36), ("name", .text "Ada"), ("nick", .text "Countess")]
    let row : Record := [("name", .text "Countess"), ("nick", .text "Ada"), ("years", .ofNat 36)]
    swappedNames.check [swappedNames] = .ok () ∧
      (∃ lowered, columns.lower user = .ok lowered ∧ columns.raise lowered = .ok user) ∧
      (∃ raised, columns.raise row = .ok raised ∧ columns.lower raised = .ok row) ∧
      (∃ error, columns.lower [("email", .null)] = .error error) ∧
      ∃ column name, columns.raise [("age", .ofNat 36), ("years", .ofNat 36)] =
        .error (.collision "user" column name) := by
  intro columns user row
  have accepted : swappedNames.check [swappedNames] = .ok () := rfl
  have storesIn {name column : String} (found : columns.column name = .ok column) : swappedNames.StoresIn name column :=
    column_eq_ok_iff.mp found
  have names {column name : String} (same : columns.nameOf column = name) : swappedNames.Names column name :=
    (nameOf_eq_iff (Model.valid_of_check accepted)).mp same
  obtain ⟨there, refused, back, all⟩ := lossless accepted
  refine ⟨accepted, there ⟨user, by decide⟩ ?_, back ⟨row, by decide⟩ ?_, (refused _).1.mpr ?_,
    (all ⟨_, by decide⟩).1.mpr ?_⟩
  · exact List.forall_mem_cons.mpr ⟨⟨"years", storesIn rfl⟩, List.forall_mem_cons.mpr
      ⟨⟨"nick", storesIn rfl⟩, List.forall_mem_singleton.mpr ⟨"name", storesIn rfl⟩⟩⟩
  · exact List.forall_mem_cons.mpr ⟨⟨"nick", storesIn rfl⟩, List.forall_mem_cons.mpr
      ⟨⟨"name", storesIn rfl⟩, List.forall_mem_singleton.mpr ⟨"age", storesIn rfl⟩⟩⟩
  · exact ⟨"email", .head _, fun column isStored => nomatch column_eq_ok_iff.mpr isStored⟩
  · exact ⟨"age", .head _, "years", .tail _ (.head _), by decide, "age", names rfl, names rfl⟩

end Columns

end RecordMapper
