import RecordMapper.Model.Columns
import RecordMapper.Model.Validity
import RecordMapper.Proofs.Dictionary
import RecordMapper.Proofs.Results

/-! # Columns of a valid model

An attribute is stored when it has a column. In a valid model no column has two attributes, so a
stored attribute is found again under its column.
-/

namespace RecordMapper

open Results

namespace Attribute

theorem hasColumn_iff {declared : Attribute} :
    declared.hasColumn = true ↔ ∀ target via, declared.kind ≠ .collection target via := by
  unfold hasColumn
  cases declared.kind <;> simp

end Attribute

namespace Model

/-- Every attribute is found under its name, since no name is declared twice. -/
theorem attribute?_of_mem {model : Model} {name : String} {declared : Attribute}
    (isAttribute : (name, declared) ∈ model.attributes) : model.attribute? name = some declared :=
  Dictionary.get?_of_mem model.sorted.nodup isAttribute

theorem sorted_stored (model : Model) : Dictionary.Sorted model.stored :=
  model.sorted.filter _

theorem mem_stored_of_attribute? {model : Model} {name : String} {declared : Attribute}
    (found : model.attribute? name = some declared) (column : declared.hasColumn = true) :
    name ∈ Dictionary.names model.stored := by
  have member : (name, declared) ∈ model.stored :=
    List.mem_filter.mpr ⟨Dictionary.mem_of_get? found, column⟩
  exact List.mem_map.mpr ⟨_, member, rfl⟩

/-- What makes a model valid, attribute by attribute. -/
structure Valid (model : Model) (models : List Model) : Prop where
  primaryKey : model.kind? model.primaryKey = some (.scalar .string) ∨
    model.kind? model.primaryKey = some (.scalar .number)
  attributes : ∀ name declared, (name, declared) ∈ model.attributes →
    model.attributeFault? models declared = none
  columns : (model.stored.map fun entry => entry.2.columnOf entry.1).Nodup

theorem checkPrimaryKey_eq_ok {model : Model} (passed : model.checkPrimaryKey = .ok ()) :
    model.kind? model.primaryKey = some (.scalar .string) ∨
      model.kind? model.primaryKey = some (.scalar .number) := by
  unfold checkPrimaryKey at passed
  split at passed
  · cases passed
  · next key => exact .inl key
  · next key => exact .inr key
  · cases passed

/-- An attribute passes when it is sound and its column, if it has one, is free. -/
theorem checkAttributes_cons_eq_ok {model : Model} {models : List Model} {taken : List String}
    {name : String} {declared : Attribute} {rest : List (String × Attribute)}
    (passed : model.checkAttributes models taken ((name, declared) :: rest) = .ok ()) :
    model.attributeFault? models declared = none ∧
      (declared.hasColumn = true ∧ declared.columnOf name ∉ taken ∧
          model.checkAttributes models (declared.columnOf name :: taken) rest = .ok () ∨
        declared.hasColumn = false ∧ model.checkAttributes models taken rest = .ok ()) := by
  simp only [checkAttributes] at passed
  cases fault : model.attributeFault? models declared with
  | some fault =>
    rw [fault] at passed
    cases passed
  | none =>
    simp only [fault] at passed
    refine ⟨rfl, ?_⟩
    cases column : declared.hasColumn with
    | false =>
      simp only [column, Bool.false_eq_true, if_false] at passed
      exact .inr ⟨rfl, passed⟩
    | true =>
      simp only [column, if_true] at passed
      split at passed
      · cases passed
      · next free => exact .inl ⟨rfl, by simpa using free, passed⟩

theorem attributeFault?_of_check {model : Model} {models : List Model} {taken : List String}
    {entries : List (String × Attribute)}
    (passed : model.checkAttributes models taken entries = .ok ()) :
    ∀ entry ∈ entries, model.attributeFault? models entry.2 = none := by
  induction entries generalizing taken with
  | nil => simp
  | cons entry rest ih =>
    obtain ⟨sound, ⟨-, -, later⟩ | ⟨-, later⟩⟩ := checkAttributes_cons_eq_ok passed
    all_goals exact List.forall_mem_cons.mpr ⟨sound, ih later⟩

/-- The columns of attributes. -/
def columnsOf (entries : List (String × Attribute)) : List String :=
  (entries.filter fun entry => entry.2.hasColumn).map fun entry => entry.2.columnOf entry.1

/-- The columns of attributes that pass are distinct and free. -/
theorem columnsOf_of_check {model : Model} {models : List Model} {taken : List String}
    {entries : List (String × Attribute)}
    (passed : model.checkAttributes models taken entries = .ok ()) :
    (columnsOf entries).Nodup ∧ ∀ column ∈ columnsOf entries, column ∉ taken := by
  induction entries generalizing taken with
  | nil => simp [columnsOf]
  | cons entry rest ih =>
    obtain ⟨name, declared⟩ := entry
    obtain ⟨-, ⟨column, free, later⟩ | ⟨noColumn, later⟩⟩ := checkAttributes_cons_eq_ok passed
    · obtain ⟨distinct, apart⟩ := ih later
      have whole : columnsOf ((name, declared) :: rest) = declared.columnOf name :: columnsOf rest := by
        rw [columnsOf, List.filter_cons_of_pos (by exact column)]
        rfl
      rw [whole]
      constructor
      · refine List.nodup_cons.mpr ⟨fun member => ?_, distinct⟩
        exact apart _ member (List.mem_cons_self ..)
      · refine List.forall_mem_cons.mpr ⟨free, fun other member isTaken => ?_⟩
        exact apart other member (List.mem_cons_of_mem _ isTaken)
    · have same : columnsOf ((name, declared) :: rest) = columnsOf rest := by
        rw [columnsOf, List.filter_cons_of_neg (by simp [noColumn])]
        rfl
      rw [same]
      exact ih later

theorem valid_of_check {model : Model} {models : List Model} (passed : model.check models = .ok ()) :
    model.Valid models := by
  obtain ⟨⟨⟩, key, attributes⟩ := bind_eq_ok.mp passed
  exact ⟨checkPrimaryKey_eq_ok key,
    fun name declared => attributeFault?_of_check attributes (name, declared),
    (columnsOf_of_check attributes).1⟩

theorem mem_stored_of_kind? {model : Model} {name : String} {kind : AttributeKind}
    (found : model.kind? name = some kind) (singular : ∀ target via, kind ≠ .collection target via) :
    name ∈ Dictionary.names model.stored := by
  obtain ⟨declared, isDeclared, rfl⟩ := Option.map_eq_some_iff.mp found
  exact mem_stored_of_attribute? isDeclared (Attribute.hasColumn_iff.mpr singular)

theorem Valid.primaryKey_mem {model : Model} {models : List Model} (valid : model.Valid models) :
    model.primaryKey ∈ Dictionary.names model.stored := by
  rcases valid.primaryKey with text | number
  · exact mem_stored_of_kind? text (by simp)
  · exact mem_stored_of_kind? number (by simp)

/-- A valid plural association leads to a model with an attribute that refers back. -/
theorem Valid.refersBack {model : Model} {models : List Model} (valid : model.Valid models)
    {name target : String} {via : Option String}
    (found : model.kind? name = some (.collection target via)) :
    ∃ child back, find? models target = some child ∧ via = some back ∧
      child.kind? back = some (.model model.identity) := by
  obtain ⟨declared, isDeclared, isCollection⟩ := Option.map_eq_some_iff.mp found
  have sound := valid.attributes name declared (Dictionary.mem_of_get? isDeclared)
  unfold attributeFault? at sound
  rw [isCollection] at sound
  split at sound
  · cases sound
  · dsimp only at sound
    split at sound
    · cases sound
    · cases sound
    · next child back isChild =>
      split at sound
      · next refersBack => exact ⟨child, back, isChild, rfl, refersBack⟩
      · cases sound

end Model

namespace Columns

theorem exists_column?_iff {model : Model} {name : String} :
    (∃ column, (ofModel model).column? name = some column) ↔ name ∈ Dictionary.names model.stored := by
  unfold column? ofModel
  rw [Dictionary.exists_get?_iff, Dictionary.mem_names_ofList, List.map_map]
  rfl

theorem column_eq_ok {columns : Columns} {name column : String} :
    columns.column name = .ok column ↔ columns.column? name = some column := by
  unfold Columns.column
  cases columns.column? name <;> simp

/-- The attributes that have a column are the stored ones. -/
theorem exists_column_iff {model : Model} {name : String} :
    (∃ column, (ofModel model).column name = .ok column) ↔ name ∈ Dictionary.names model.stored := by
  simp only [column_eq_ok, exists_column?_iff]

/-- A record has a row exactly when all its fields are stored. -/
theorem exists_lower_iff {model : Model} {record : Record} :
    (∃ row, (ofModel model).lower record = .ok row) ↔
      ∀ name ∈ Dictionary.names record, name ∈ Dictionary.names model.stored := by
  simp only [lower, bind_eq_ok, pure_eq_ok]
  have entries : (∃ values, record.mapM (fun entry =>
      ((ofModel model).column entry.1).map fun column => (column, entry.2)) = .ok values) ↔ _ :=
    exists_mapM_eq_ok_iff
  simp only [map_eq_ok, ← exists_column_iff] at entries ⊢
  constructor
  · rintro ⟨row, values, done, -⟩ name member
    obtain ⟨entry, isEntry, rfl⟩ := List.mem_map.mp member
    obtain ⟨_, column, found, -⟩ := entries.mp ⟨values, done⟩ entry isEntry
    exact ⟨column, found⟩
  · intro stored
    obtain ⟨values, done⟩ := entries.mpr fun entry isEntry =>
      let ⟨column, found⟩ := stored entry.1 (List.mem_map.mpr ⟨entry, isEntry, rfl⟩)
      ⟨_, column, found, rfl⟩
    exact ⟨_, values, done, rfl⟩

end Columns

end RecordMapper
