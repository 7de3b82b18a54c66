import RecordMapper.Proofs.Dictionary
import RecordMapper.Proofs.Model.Columns

/-! # Records and their rows

The columns of a valid model tell its attributes apart. So a record that has a row can be read off
it, field by field: the row holds under the column of an attribute what the record holds under its
name, and raising the row gives the record back.
-/

namespace RecordMapper.Columns

open Results

/-- Every column leads back to the attribute that it is the column of. -/
def Faithful (columns : Columns) : Prop :=
  ∀ name column, columns.column name = .ok column → columns.attribute? column = some name

theorem faithful_ofModel {model : Model} {models : List Model} (valid : model.Valid models) :
    (ofModel model).Faithful := by
  intro name column found
  have isColumn : (name, column) ∈ model.stored.map fun entry => (entry.1, entry.2.columnOf entry.1) :=
    Dictionary.mem_of_get?_ofList (column_eq_ok.mp found)
  obtain ⟨entry, stored, same⟩ := List.mem_map.mp isColumn
  obtain ⟨rfl, rfl⟩ := Prod.mk.inj same
  have nodup :
      ((model.stored.map fun entry => (entry.2.columnOf entry.1, entry.1)).map Prod.fst).Nodup := by
    rw [List.map_map]
    exact valid.columns
  exact (Dictionary.get?_ofList_eq_some_iff nodup).mpr (List.mem_map.mpr ⟨entry, stored, rfl⟩)

/-- The column of an attribute; what has none keeps its name. -/
def columnOf (columns : Columns) (name : String) : String :=
  (columns.column? name).getD name

/-- The row of a record. -/
def rowOf (columns : Columns) (record : Record) : Record :=
  Dictionary.ofList (record.map fun entry => (columns.columnOf entry.1, entry.2))

/-- Every field of a record has a column. -/
def Covers (columns : Columns) (record : Record) : Prop :=
  ∀ name ∈ Dictionary.names record, columns.column name = .ok (columns.columnOf name)

/-- A record as a table can keep it: its fields are in order, and each of them has a column. -/
structure Storable (columns : Columns) (record : Record) : Prop where
  sorted : Dictionary.Sorted record
  covers : columns.Covers record

/-- The rows of records whose fields are in order. -/
structure RowsOf (columns : Columns) (records rows : List Record) : Prop where
  sorted : ∀ record ∈ records, Dictionary.Sorted record
  lowered : records.mapM columns.lower = .ok rows

variable {columns : Columns}

theorem columnOf_of_ok {name column : String} (found : columns.column name = .ok column) :
    columns.columnOf name = column := by
  rw [columnOf, column_eq_ok.mp found, Option.getD_some]

/-- A record that can be lowered has a column for every field, and lowering gives its row. -/
theorem rowOf_of_lower {record row : Record} (lowered : columns.lower record = .ok row) :
    columns.Covers record ∧ columns.rowOf record = row := by
  obtain ⟨entries, each, done⟩ := bind_eq_ok.mp lowered
  obtain rfl := pure_eq_ok.mp done
  constructor
  · intro name member
    obtain ⟨entry, isEntry, rfl⟩ := List.mem_map.mp member
    obtain ⟨pair, step⟩ := exists_mapM_eq_ok_iff.mp ⟨_, each⟩ entry isEntry
    obtain ⟨column, found, -⟩ := map_eq_ok.mp step
    rw [columnOf_of_ok found]
    exact found
  · have same : entries.map id = record.map fun entry => (columns.columnOf entry.1, entry.2) := by
      refine map_eq_of_mapM (fun entry _ pair step => ?_) each
      obtain ⟨column, found, rfl⟩ := map_eq_ok.mp step
      rw [columnOf_of_ok found]
      rfl
    rw [rowOf, ← same, List.map_id]

theorem rows_of_lower {records rows : List Record} (lowered : records.mapM columns.lower = .ok rows) :
    (∀ record ∈ records, columns.Covers record) ∧ rows = records.map columns.rowOf := by
  constructor
  · intro record member
    obtain ⟨row, step⟩ := exists_mapM_eq_ok_iff.mp ⟨_, lowered⟩ record member
    exact (rowOf_of_lower step).1
  · have same : rows.map id = records.map columns.rowOf :=
      map_eq_of_mapM (fun _ _ _ step => (rowOf_of_lower step).2.symm) lowered
    simpa using same

theorem RowsOf.storable {records rows : List Record} (rowsOf : columns.RowsOf records rows) :
    ∀ record ∈ records, columns.Storable record :=
  fun record member => ⟨rowsOf.sorted record member, (rows_of_lower rowsOf.lowered).1 record member⟩

theorem RowsOf.rows_eq {records rows : List Record} (rowsOf : columns.RowsOf records rows) :
    rows = records.map columns.rowOf :=
  (rows_of_lower rowsOf.lowered).2

/-- A record with a column for every field can be lowered. -/
theorem lower_of_covers {record : Record} (covers : columns.Covers record) :
    columns.lower record = .ok (columns.rowOf record) := by
  have each : record.mapM (fun entry => (columns.column entry.1).map fun column => (column, entry.2)) =
      .ok (record.map fun entry => (columns.columnOf entry.1, entry.2)) := by
    rw [mapM_eq_ok, List.map_map]
    refine List.map_congr_left fun entry member => ?_
    rw [covers entry.1 (List.mem_map_of_mem member)]
    rfl
  exact bind_eq_ok.mpr ⟨_, each, rfl⟩

theorem lower_rows {records : List Record} (covers : ∀ record ∈ records, columns.Covers record) :
    records.mapM columns.lower = .ok (records.map columns.rowOf) := by
  rw [mapM_eq_ok, List.map_map]
  exact List.map_congr_left fun record member => lower_of_covers (covers record member)

theorem Covers.insert {record : Record} (covers : columns.Covers record) {name column : String}
    (found : columns.column name = .ok column) (value : Json) :
    columns.Covers (Dictionary.insert record name value) := by
  intro other member
  rcases Dictionary.mem_names_insert.mp member with rfl | present
  · rw [columnOf_of_ok found]
    exact found
  · exact covers other present

theorem Covers.insertAll {record values : Record} (covers : columns.Covers record)
    (valuesCovers : columns.Covers values) : columns.Covers (Dictionary.insertAll record values) := by
  intro name member
  rcases Dictionary.mem_names_insertAll.mp member with isValue | present
  · exact valuesCovers name isValue
  · exact covers name present

namespace Storable

variable {record : Record}

theorem insert (storable : columns.Storable record) {name column : String}
    (found : columns.column name = .ok column) (value : Json) :
    columns.Storable (Dictionary.insert record name value) :=
  ⟨Dictionary.sorted_insert storable.sorted name value, storable.covers.insert found value⟩

theorem insertAll (storable : columns.Storable record) {values : Record} (covers : columns.Covers values) :
    columns.Storable (Dictionary.insertAll record values) :=
  ⟨Dictionary.sorted_insertAll storable.sorted values, storable.covers.insertAll covers⟩

theorem filter (storable : columns.Storable record) (keep : String × Json → Bool) :
    columns.Storable (record.filter keep) :=
  ⟨storable.sorted.filter keep, fun name member =>
    storable.covers name ((List.filter_sublist.map Prod.fst).subset member)⟩

end Storable

/-- A row holds nothing under a column that none of the fields of its record has. -/
theorem get?_rowOf_eq_none {record : Record} {column : String}
    (apart : ∀ name ∈ Dictionary.names record, columns.columnOf name ≠ column) :
    Dictionary.get? (columns.rowOf record) column = none := by
  rw [Dictionary.get?_eq_none_iff, rowOf, Dictionary.mem_names_ofList, List.map_map]
  intro member
  obtain ⟨entry, isEntry, same⟩ := List.mem_map.mp member
  exact apart entry.1 (List.mem_map_of_mem isEntry) same

/-- Fields whose attributes are not in a record yet are written into it. -/
theorem raiseInto_eq_ok {sofar : Record} {fields : List (String × Json)}
    (nodup : (fields.map fun field => columns.nameOf field.1).Nodup)
    (fresh : ∀ field ∈ fields, columns.nameOf field.1 ∉ Dictionary.names sofar) :
    columns.raiseInto sofar fields =
      .ok (Dictionary.insertAll sofar (fields.map fun field => (columns.nameOf field.1, field.2))) := by
  induction fields generalizing sofar with
  | nil => rfl
  | cons field rest ih =>
    obtain ⟨column, value⟩ := field
    obtain ⟨apart, rest_nodup⟩ := List.nodup_cons.mp nodup
    obtain ⟨here, later⟩ := List.forall_mem_cons.mp fresh
    have absent : Dictionary.contains sofar (columns.nameOf column) = false := by
      rw [Bool.eq_false_iff, ne_eq, Dictionary.contains_iff]
      exact here
    rw [raiseInto, absent, if_neg Bool.false_ne_true]
    refine ih rest_nodup fun other member => ?_
    rw [Dictionary.mem_names_insert, not_or]
    refine ⟨?_, later other member⟩
    intro same
    exact apart (List.mem_map.mpr ⟨other, member, same⟩)

/-- Only fields whose attributes are distinct and not in a record yet can be written into it. -/
theorem nodup_of_raiseInto {sofar record : Record} {fields : List (String × Json)}
    (raised : columns.raiseInto sofar fields = .ok record) :
    (fields.map fun field => columns.nameOf field.1).Nodup ∧
      ∀ field ∈ fields, columns.nameOf field.1 ∉ Dictionary.names sofar := by
  induction fields generalizing sofar with
  | nil => simp
  | cons field rest ih =>
    obtain ⟨column, value⟩ := field
    rw [raiseInto] at raised
    split at raised
    · cases raised
    · next absent =>
      rw [Dictionary.contains_iff] at absent
      obtain ⟨nodup, fresh⟩ := ih raised
      have apart (other : String × Json) (member : other ∈ rest) :
          columns.nameOf other.1 ≠ columns.nameOf column ∧ columns.nameOf other.1 ∉ Dictionary.names sofar := by
        have outside := fresh other member
        rwa [Dictionary.mem_names_insert, not_or] at outside
      refine ⟨List.nodup_cons.mpr ⟨fun member => ?_, nodup⟩, ?_⟩
      · obtain ⟨other, isOther, same⟩ := List.mem_map.mp member
        exact (apart other isOther).1 same
      · exact List.forall_mem_cons.mpr ⟨absent, fun other member => (apart other member).2⟩

/-- A row is raised exactly when its columns are those of distinct names, to what it holds under these. -/
theorem raise_eq_ok {row record : Record} :
    columns.raise row = .ok record ↔
      (row.map fun field => columns.nameOf field.1).Nodup ∧
        Dictionary.ofList (row.map fun field => (columns.nameOf field.1, field.2)) = record := by
  constructor
  · intro raised
    have nodup := (nodup_of_raiseInto raised).1
    have whole := @raiseInto_eq_ok columns [] _ nodup fun _ _ => by simp [Dictionary.names]
    exact ⟨nodup, Except.ok.inj (whole.symm.trans raised)⟩
  · rintro ⟨nodup, rfl⟩
    exact raiseInto_eq_ok nodup fun _ _ => by simp [Dictionary.names]

/-- Two fields of a row have one name. -/
def Collides (columns : Columns) (row : Record) : Prop :=
  ¬(row.map fun field => columns.nameOf field.1).Nodup

/-- The fields of a row under their names. -/
def renamed (columns : Columns) (row : Record) : Record :=
  Dictionary.ofList (row.map fun field => (columns.nameOf field.1, field.2))

theorem raise_eq_ok_iff {row record : Record} :
    columns.raise row = .ok record ↔ ¬columns.Collides row ∧ columns.renamed row = record := by
  rw [raise_eq_ok, Collides, not_not]
  rfl

/-- A record that was raised holds under a name what its row holds under the column that has it. -/
theorem get?_raise {row record : Record} (raised : columns.raise row = .ok record) {name : String} {value : Json} :
    Dictionary.get? record name = some value ↔ ∃ column, (column, value) ∈ row ∧ columns.nameOf column = name := by
  obtain ⟨nodup, rfl⟩ := raise_eq_ok.mp raised
  have distinct : ((row.map fun field => (columns.nameOf field.1, field.2)).map Prod.fst).Nodup := by
    rwa [List.map_map]
  rw [Dictionary.get?_ofList distinct]
  constructor
  · intro held
    obtain ⟨⟨column, _⟩, member, same⟩ := List.mem_map.mp (Dictionary.mem_of_get? held)
    obtain ⟨isName, rfl⟩ := Prod.mk.inj same
    exact ⟨column, member, isName⟩
  · rintro ⟨column, member, rfl⟩
    exact Dictionary.get?_of_mem distinct (List.mem_map_of_mem member)

/-- What the record of a part of a row holds, the record of the row holds. -/
theorem get?_raise_of_subset {part row some whole : Record} (partRaised : columns.raise part = .ok some)
    (raised : columns.raise row = .ok whole) (within : part ⊆ row) {name : String} {value : Json}
    (held : Dictionary.get? some name = .some value) : Dictionary.get? whole name = .some value := by
  obtain ⟨column, member, isName⟩ := (get?_raise partRaised).mp held
  exact (get?_raise raised).mpr ⟨column, within member, isName⟩

/-- A part of a row that can be raised can be raised. -/
theorem exists_raise_filter {row record : Record} (raised : columns.raise row = .ok record)
    (keep : String × Json → Bool) : ∃ part, columns.raise (row.filter keep) = .ok part :=
  ⟨_, raise_eq_ok.mpr ⟨(List.filter_sublist.map _).nodup (raise_eq_ok.mp raised).1, rfl⟩⟩

namespace Faithful

variable {record : Record}

theorem nameOf_eq (faithful : columns.Faithful) {name column : String}
    (found : columns.column name = .ok column) :
    columns.nameOf column = name := by
  rw [nameOf, faithful name column found, Option.getD_some]

/-- Two attributes do not share a column. -/
theorem eq_of_column (faithful : columns.Faithful) {first second column : String}
    (here : columns.column first = .ok column) (there : columns.column second = .ok column) :
    first = second :=
  Option.some.inj ((faithful first column here).symm.trans (faithful second column there))

theorem nodup_columns (faithful : columns.Faithful) (storable : columns.Storable record) :
    ((record.map fun entry => (columns.columnOf entry.1, entry.2)).map Prod.fst).Nodup := by
  have distinct : ((Dictionary.names record).map columns.columnOf).Nodup := by
    refine List.pairwise_map.mpr
      (storable.sorted.nodup.imp_of_mem fun {first second} isFirst isSecond differ same => ?_)
    exact differ (faithful.eq_of_column (storable.covers first isFirst) (same ▸ storable.covers second isSecond))
  rw [Dictionary.names, List.map_map] at distinct
  rw [List.map_map]
  exact distinct

/-- A row holds under a column what the record holds under its attribute. -/
theorem get?_rowOf (faithful : columns.Faithful) (storable : columns.Storable record) {name column : String}
    (found : columns.column name = .ok column) :
    Dictionary.get? (columns.rowOf record) column = Dictionary.get? record name := by
  rw [rowOf, Dictionary.get?_ofList (faithful.nodup_columns storable)]
  have covers := storable.covers
  clear storable
  induction record with
  | nil => rfl
  | cons entry rest ih =>
    obtain ⟨first, value⟩ := entry
    have isColumn := covers first (List.mem_cons_self ..)
    have later := ih fun other member => covers other (List.mem_cons_of_mem _ member)
    by_cases same : first = name
    · subst same
      rw [List.map_cons, Dictionary.get?, Dictionary.get?, if_pos rfl, if_pos (columnOf_of_ok found)]
    · have differ : columns.columnOf first ≠ column := by
        rintro rfl
        exact same (faithful.eq_of_column isColumn found)
      rw [List.map_cons, Dictionary.get?, Dictionary.get?, if_neg same, if_neg differ]
      exact later

/-- Writing a field of a record is writing its column of the row. -/
theorem rowOf_insert (faithful : columns.Faithful) (storable : columns.Storable record) {name column : String}
    (found : columns.column name = .ok column) (value : Json) :
    columns.rowOf (Dictionary.insert record name value) =
      Dictionary.insert (columns.rowOf record) column value := by
  have sortedRow : Dictionary.Sorted (columns.rowOf record) := Dictionary.sorted_ofList _
  have written := storable.insert found value
  refine Dictionary.Sorted.eq_of_get? (Dictionary.sorted_ofList _) (Dictionary.sorted_insert sortedRow _ _) ?_
  intro other
  by_cases isColumn : ∃ field, columns.column field = .ok other
  · obtain ⟨field, there⟩ := isColumn
    rw [faithful.get?_rowOf written there, Dictionary.get?_insert, Dictionary.get?_insert,
      faithful.get?_rowOf storable there]
    by_cases same : name = field
    · subst same
      rw [if_pos rfl, if_pos (Except.ok.inj (found.symm.trans there))]
    · have apart : column ≠ other := by
        rintro rfl
        exact same (faithful.eq_of_column found there)
      rw [if_neg same, if_neg apart]
  · have apart {record : Record} (covers : columns.Covers record) :
        ∀ present ∈ Dictionary.names record, columns.columnOf present ≠ other := by
      intro present member same
      exact isColumn ⟨present, same ▸ covers present member⟩
    have elsewhere : column ≠ other := by
      rintro rfl
      exact isColumn ⟨name, found⟩
    rw [get?_rowOf_eq_none (apart written.covers), Dictionary.get?_insert, if_neg elsewhere,
      get?_rowOf_eq_none (apart storable.covers)]

/-- Writing values over a record is writing their row over its row. -/
theorem rowOf_insertAll (faithful : columns.Faithful) (storable : columns.Storable record) {values : Record}
    (valuesCovers : columns.Covers values) :
    columns.rowOf (Dictionary.insertAll record values) =
      Dictionary.insertAll (columns.rowOf record) (columns.rowOf values) := by
  have sortedRow : Dictionary.Sorted (columns.rowOf record) := Dictionary.sorted_ofList _
  have one_by_one : columns.rowOf (Dictionary.insertAll record values) =
      Dictionary.insertAll (columns.rowOf record)
        (values.map fun entry => (columns.columnOf entry.1, entry.2)) := by
    clear sortedRow
    induction values generalizing record with
    | nil => rfl
    | cons entry rest ih =>
      have found := valuesCovers entry.1 (List.mem_cons_self ..)
      have later : columns.Covers rest := fun name member => valuesCovers name (List.mem_cons_of_mem _ member)
      refine (ih (storable.insert found entry.2) later).trans ?_
      rw [faithful.rowOf_insert storable found]
      rfl
  exact one_by_one.trans (sortedRow.insertAll_ofList _).symm

/-- Keeping some columns of a row is keeping the fields of the record that they are the columns
of. -/
theorem filter_rowOf (faithful : columns.Faithful) (storable : columns.Storable record) (keep : String → Bool) :
    (columns.rowOf record).filter (fun entry => keep entry.1) =
      columns.rowOf (record.filter fun entry => keep (columns.columnOf entry.1)) := by
  rw [rowOf, Dictionary.filter_ofList (faithful.nodup_columns storable), List.filter_map]
  rfl

/-- Raising its row gives a record back. -/
theorem raise_rowOf (faithful : columns.Faithful) (storable : columns.Storable record) :
    columns.raise (columns.rowOf record) = .ok record := by
  have perm : (columns.rowOf record).Perm (record.map fun entry => (columns.columnOf entry.1, entry.2)) :=
    Dictionary.perm_ofList (faithful.nodup_columns storable)
  have back : (record.map fun entry => (columns.columnOf entry.1, entry.2)).map
      (fun field => (columns.nameOf field.1, field.2)) = record := by
    rw [List.map_map]
    refine (List.map_congr_left fun entry member => ?_).trans (List.map_id record)
    have isColumn := storable.covers entry.1 (List.mem_map_of_mem member)
    exact Prod.ext (faithful.nameOf_eq isColumn) rfl
  have fields :
      ((columns.rowOf record).map fun field => (columns.nameOf field.1, field.2)).Perm record := by
    have mapped := perm.map fun field => (columns.nameOf field.1, field.2)
    rwa [back] at mapped
  have nodup : ((columns.rowOf record).map fun field => columns.nameOf field.1).Nodup := by
    have names := (fields.map Prod.fst).nodup_iff.mpr storable.sorted.nodup
    rwa [List.map_map] at names
  rw [raise, raiseInto_eq_ok nodup (by simp [Dictionary.names])]
  exact congrArg Except.ok (storable.sorted.ofList_eq fields)

end Faithful

end RecordMapper.Columns
